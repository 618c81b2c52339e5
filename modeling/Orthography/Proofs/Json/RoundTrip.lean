import Orthography.Proofs.Json.Scanning

/-! What is written of a value is read back as the value, whatever the layout. -/
namespace Orthography.Json

namespace Reading

def readFrom (reading : Reading) (tokens : List Token) : Except Fault Value := do
  (← tokens.foldlM step reading).finish

variable {outer : List Frame} {behind : List Token}

theorem readFrom_cons {reading next : Reading} {token : Token}
    (stepped : step reading token = .ok next) :
    readFrom reading (token :: behind) = readFrom next behind := by
  simp only [readFrom,List.foldlM_cons,stepped]
  rfl

/-- The tokens of a value are read as the value, whatever is still open around it. -/
def Parses (value : Value) : Prop :=
  ∀ frames behind, readFrom ⟨.value,frames⟩ (value.tokens ++ behind) =
    readFrom (deliver value frames) behind

/-- No value begins with the end of a list, so that the first item is read like any other. -/
theorem readFrom_item (value : Value) :
    readFrom ⟨.item,.list [] :: outer⟩ (value.tokens ++ behind) =
      readFrom ⟨.value,.list [] :: outer⟩ (value.tokens ++ behind) := by
  cases value with
  | list items => cases items <;> simp only [Value.tokens,List.cons_append] <;> rfl
  | record fields => cases fields <;> simp only [Value.tokens,List.cons_append] <;> rfl
  | _ => rfl

theorem readFrom_tokensOfItems {items : List Value} (each : ∀ item ∈ items, Parses item)
    (front : List Value) :
    readFrom ⟨.next,.list front :: outer⟩ (Value.tokensOfItems items ++ .closeList :: behind) =
      readFrom (deliver (.list (front.reverse ++ items)) outer) behind := by
  induction items generalizing front with
  | nil =>
    rw [Value.tokensOfItems,List.nil_append,List.append_nil]
    exact readFrom_cons rfl
  | cons item items ih =>
    have first := each item List.mem_cons_self
    have others := ih (fun other member => each other (List.mem_cons_of_mem item member))
      (item :: front)
    have comma : step ⟨.next,.list front :: outer⟩ .comma = .ok ⟨.value,.list front :: outer⟩ := rfl
    rw [List.reverse_cons,List.append_assoc] at others
    rw [Value.tokensOfItems,List.cons_append,List.cons_append,List.append_assoc,
      readFrom_cons comma,first]
    exact others

def kept (fields : List (String × Value)) : List (Option String × Value) :=
  fields.map fun field => (some field.1,field.2)

theorem closeRecord_kept (fields : List (String × Value)) :
    closeRecord (kept fields) outer = deliver (.record fields.reverse) outer := by
  have readable (fields : List (String × Value)) :
      ((kept fields).mapM fun field => field.1.map fun key => (key,field.2)) = some fields := by
    induction fields with
    | nil => rfl
    | cons field fields ih =>
      rw [kept] at ih
      simp only [kept,List.map_cons,List.mapM_cons,ih,Option.map_some]
      rfl
  have backwards : (kept fields).reverse = kept fields.reverse := (List.map_reverse ..).symm
  have read := readable fields.reverse
  rw [closeRecord,backwards]
  split
  · next result equal =>
    cases equal.symm.trans read
    rfl
  · next equal => cases equal.symm.trans read

theorem readFrom_tokensOfFields {fields : List (String × Value)}
    (each : ∀ field ∈ fields, Parses field.2) (front : List (String × Value)) :
    readFrom ⟨.next,.record (kept front) none :: outer⟩
        (Value.tokensOfFields fields ++ .closeRecord :: behind) =
      readFrom (deliver (.record (front.reverse ++ fields)) outer) behind := by
  induction fields generalizing front with
  | nil =>
    have closed : step ⟨.next,.record (kept front) none :: outer⟩ .closeRecord =
        .ok (closeRecord (kept front) outer) := rfl
    rw [Value.tokensOfFields,List.nil_append,List.append_nil,readFrom_cons closed,
      closeRecord_kept]
  | cons field fields ih =>
    obtain ⟨key,value⟩ := field
    have first : Parses value := each (key,value) List.mem_cons_self
    have others := ih (fun other member => each other (List.mem_cons_of_mem _ member))
      ((key,value) :: front)
    have comma : step ⟨.next,.record (kept front) none :: outer⟩ .comma =
        .ok ⟨.key,.record (kept front) none :: outer⟩ := rfl
    have named : step ⟨.key,.record (kept front) none :: outer⟩ (.text (some key)) =
        .ok ⟨.colon,.record (kept front) (some key) :: outer⟩ := rfl
    have colon : step ⟨.colon,.record (kept front) (some key) :: outer⟩ .colon =
        .ok ⟨.value,.record (kept front) (some key) :: outer⟩ := rfl
    rw [List.reverse_cons,List.append_assoc] at others
    simp only [Value.tokensOfFields,List.cons_append,List.append_assoc]
    rw [readFrom_cons comma,readFrom_cons named,readFrom_cons colon,first]
    exact others

theorem parses_list {items : List Value} (each : ∀ item ∈ items, Parses item) :
    Parses (.list items) := by
  intro frames behind
  cases items with
  | nil => rfl
  | cons item items =>
    have first := each item List.mem_cons_self
    have others := @readFrom_tokensOfItems frames behind items
      (fun other member => each other (List.mem_cons_of_mem item member)) [item]
    have opened : step ⟨.value,frames⟩ .openList = .ok ⟨.item,.list [] :: frames⟩ := rfl
    simp only [Value.tokens,List.cons_append,List.append_assoc,List.nil_append]
    rw [readFrom_cons opened,readFrom_item,first]
    exact others

theorem parses_record {fields : List (String × Value)} (each : ∀ field ∈ fields, Parses field.2) :
    Parses (.record fields) := by
  intro frames behind
  cases fields with
  | nil => rfl
  | cons field fields =>
    obtain ⟨key,value⟩ := field
    have first : Parses value := each (key,value) List.mem_cons_self
    have others := @readFrom_tokensOfFields frames behind fields
      (fun other member => each other (List.mem_cons_of_mem _ member)) [(key,value)]
    have opened : step ⟨.value,frames⟩ .openRecord = .ok ⟨.field,.record [] none :: frames⟩ := rfl
    have named : step ⟨.field,.record [] none :: frames⟩ (.text (some key)) =
        .ok ⟨.colon,.record [] (some key) :: frames⟩ := rfl
    have colon : step ⟨.colon,.record [] (some key) :: frames⟩ .colon =
        .ok ⟨.value,.record [] (some key) :: frames⟩ := rfl
    simp only [Value.tokens,List.cons_append,List.append_assoc,List.nil_append]
    rw [readFrom_cons opened,readFrom_cons named,readFrom_cons colon,first]
    exact others

theorem parses_of_writable {value : Value} (writable : Writable value) : Parses value := by
  induction writable with
  | list _ ih => exact parses_list ih
  | record _ ih => exact parses_record ih
  | _ => exact fun frames behind => rfl

end Reading

theorem ofTokens_tokens {value : Value} (writable : Writable value) :
    Value.ofTokens value.tokens = .ok value := by
  have whole := Reading.parses_of_writable writable [] []
  rw [List.append_nil] at whole
  exact whole

/-- A value survives being written and read. -/
theorem ofText_render {layout : Layout} (blank : layout.Blank) {value : Value}
    (writable : Writable value) : Value.ofText (value.render layout) = .ok value := by
  rw [Value.ofText,Value.render,String.toList_ofList,Token.scan_chars blank writable]
  exact ofTokens_tokens writable

end Orthography.Json
