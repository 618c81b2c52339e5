import Orthography.Proofs.Verdict.Region
import Orthography.Settings

/-! Word lists by language. Setting one changes the answer for its language only, and keeps the
languages in their order, each of them once. -/
namespace Orthography.Settings

open MonadAttach (CanReturn)
open LawfulMonadAttach (eq_of_canReturn_pure canReturn_bind_imp')

/-- Each language comes once, and all in order. -/
def Ordered (dictionaries : Dictionaries) : Prop :=
  dictionaries.Pairwise fun earlier later => earlier.1 < later.1

theorem lookup_setDictionary (language path other : String) (dictionaries : Dictionaries) :
    (setDictionary language path dictionaries).lookup other =
      if other = language then some path else dictionaries.lookup other := by
  induction dictionaries with
  | nil => simp [setDictionary,List.lookup_cons]; grind
  | cons first rest ih =>
    obtain ⟨name,list⟩ := first
    simp only [setDictionary]
    split
    · simp only [List.lookup_cons]; grind
    split
    next same => subst same; simp only [List.lookup_cons]; grind
    next => simp only [List.lookup_cons,ih]; grind

/-- Of the word lists that are set the last one for a language counts. -/
theorem lookup_setDictionaries (added dictionaries : Dictionaries) (language : String) :
    (setDictionaries added dictionaries).lookup language =
      (added.reverse.lookup language).or (dictionaries.lookup language) := by
  induction added generalizing dictionaries with
  | nil => rfl
  | cons first rest ih =>
    have later := ih (setDictionary first.1 first.2 dictionaries)
    rw [lookup_setDictionary] at later
    rw [List.reverse_cons,List.lookup_append,Option.or_assoc]
    change (setDictionaries rest _).lookup language = _
    rw [later,List.lookup_cons,List.lookup_nil]
    grind

theorem fst_of_mem_setDictionary {language path : String} {dictionaries : Dictionaries}
    {entry : String × String} (member : entry ∈ setDictionary language path dictionaries) :
    entry.1 = language ∨ entry ∈ dictionaries := by
  induction dictionaries with
  | nil => simp_all [setDictionary]
  | cons first rest ih =>
    simp only [setDictionary] at member
    grind

theorem Ordered.setDictionary {dictionaries : Dictionaries} (ordered : Ordered dictionaries)
    (language path : String) : Ordered (setDictionary language path dictionaries) := by
  induction dictionaries with
  | nil => simp [Settings.setDictionary,Ordered]
  | cons first rest ih =>
    obtain ⟨behind,ordered⟩ := List.pairwise_cons.mp ordered
    simp only [Settings.setDictionary]
    split
    next before =>
      refine List.pairwise_cons.mpr ⟨fun entry member => ?_,List.pairwise_cons.mpr ⟨behind,ordered⟩⟩
      rcases List.mem_cons.mp member with rfl | member
      · exact before
      · exact String.lt_trans before (behind entry member)
    split
    next same =>
      subst same
      exact List.pairwise_cons.mpr ⟨behind,ordered⟩
    next notBefore notSame =>
      refine List.pairwise_cons.mpr ⟨fun entry member => ?_,ih ordered⟩
      rcases fst_of_mem_setDictionary member with rfl | member
      · exact Std.lt_of_le_of_ne notBefore (Ne.symm notSame)
      · exact behind entry member

theorem Ordered.setDictionaries {dictionaries : Dictionaries} (ordered : Ordered dictionaries)
    (added : Dictionaries) : Ordered (setDictionaries added dictionaries) := by
  induction added generalizing dictionaries with
  | nil => exact ordered
  | cons first rest ih => exact ih (ordered.setDictionary first.1 first.2)

/-- A change of the paths leaves the languages as they are. -/
theorem Ordered.settle {settings : Settings} (ordered : Ordered settings.dictionaries)
    (path : String) : Ordered (settings.settle path).dictionaries :=
  List.pairwise_map.mpr ordered

section Reading

variable {m : Type → Type} {ν : Type} [Monad m] [LawfulMonad m] [MonadAttach m]
  [LawfulMonadAttach m] [Source m ν]

theorem ordered_of_readDictionaries {node : ν} {dictionaries : Dictionaries}
    (returned : CanReturn (readDictionaries (m := m) node) dictionaries) : Ordered dictionaries := by
  obtain ⟨entries,_,returned⟩ := canReturn_bind_imp' returned
  obtain ⟨added,_,returned⟩ := canReturn_bind_imp' returned
  obtain rfl := eq_of_canReturn_pure returned
  exact Ordered.setDictionaries .nil added

theorem ordered_of_read [MonadExcept Schema.Mismatch m] {node : ν} {settings : Settings}
    (returned : CanReturn (read (m := m) node) settings) : Ordered settings.dictionaries := by
  obtain ⟨field,_,returned⟩ := canReturn_bind_imp' returned
  obtain ⟨engine,_,returned⟩ := canReturn_bind_imp' returned
  obtain ⟨output,_,returned⟩ := canReturn_bind_imp' returned
  obtain ⟨exclude,_,returned⟩ := canReturn_bind_imp' returned
  obtain ⟨dictionaries,given,returned⟩ := canReturn_bind_imp' returned
  obtain ⟨options,_,returned⟩ := canReturn_bind_imp' returned
  obtain rfl := eq_of_canReturn_pure returned
  cases node : field "dictionaries" with
  | none =>
    rw [node] at given
    obtain rfl := eq_of_canReturn_pure given
    exact .nil
  | some node' =>
    rw [node] at given
    exact ordered_of_readDictionaries given

end Reading

theorem ok_of_mapError {ε ε' α : Type} {f : ε → ε'} {result : Except ε α} {value : α}
    (mapped : result.mapError f = .ok value) : result = .ok value := by
  cases result with
  | error fault => cases mapped
  | ok own => exact congrArg Except.ok (Except.ok.inj mapped)

theorem ok_of_bind {ε α β : Type} {result : Except ε α} {next : α → Except ε β} {value : β}
    (bound : result >>= next = .ok value) : ∃ first, result = .ok first ∧ next first = .ok value := by
  cases result with
  | error fault => cases bound
  | ok first => exact ⟨first,rfl,bound⟩

/-- What a text decodes to was read from a node of one of the two formats. -/
theorem canReturn_of_decode {α : Type} {read : Format.Reader α} {format : Format} {text : String}
    {value : α} (decoded : format.decode read text = .ok value) :
    (∃ cursor : Json.Cursor, CanReturn (m := Except Schema.Mismatch) (read cursor) value) ∨
      ∃ cursor : Yaml.Cursor, CanReturn (m := Yaml.Tally) (read cursor) value := by
  cases format with
  | json =>
    simp only [Format.decode] at decoded
    split at decoded
    next => cases decoded
    next own _ => exact .inl ⟨_,ok_of_mapError decoded⟩
  | yaml =>
    simp only [Format.decode] at decoded
    split at decoded
    next => cases decoded
    next cursor _ =>
      have counted := ok_of_mapError decoded
      cases typed : (read (m := Yaml.Tally) cursor).run 0 with
      | error fault =>
        rw [StateT.run'_eq,typed] at counted
        cases counted
      | ok pair =>
        rw [StateT.run'_eq,typed] at counted
        obtain rfl : pair.1 = value := Except.ok.inj counted
        exact .inr ⟨cursor,0,pair.2,typed⟩

/-- Whatever their format, settings are loaded with their languages in order. -/
theorem ordered_of_ofText {path text : String} {settings : Settings}
    (loaded : ofText path text = .ok settings) : Ordered settings.dictionaries := by
  unfold ofText at loaded
  split at loaded
  next => cases loaded
  next format _ =>
    obtain ⟨own,decoded,loaded⟩ := ok_of_bind loaded
    obtain ⟨policy,_,loaded⟩ := ok_of_bind loaded
    obtain rfl := Except.ok.inj loaded
    rcases canReturn_of_decode (ok_of_mapError decoded) with ⟨cursor,typed⟩ | ⟨cursor,typed⟩
    · exact (ordered_of_read typed).settle path
    · exact (ordered_of_read typed).settle path

/-- Settings are only loaded with options that make a policy. -/
theorem exists_policy_of_ofText {path text : String} {settings : Settings}
    (loaded : ofText path text = .ok settings) : ∃ own, settings.policy = .ok own := by
  unfold ofText at loaded
  split at loaded
  next => cases loaded
  next format _ =>
    obtain ⟨read,_,loaded⟩ := ok_of_bind loaded
    obtain ⟨own,made,loaded⟩ := ok_of_bind loaded
    obtain rfl := Except.ok.inj loaded
    exact ⟨own,ok_of_mapError made⟩

section Json

variable {path text : String} (json : FilePath.extension path = "json")

include json

theorem ofText_of_json {value : Json.Value} {settings : Settings} {own : Policy}
    (parsed : Json.Value.ofText text = .ok value)
    (typed : (read (Json.Cursor.ofValue value) : Except Schema.Mismatch Settings) = .ok settings)
    (accepted : settings.policy = .ok own) : ofText path text = .ok (settings.settle path) := by
  have known : Format.ofExtension? "json" = some .json := rfl
  have decoded : Format.json.decode read text = .ok settings := by
    simp only [Format.decode,parsed,typed]
    rfl
  simp only [ofText,json,known,decoded]
  change (do
    let _ ← settings.policy.mapError Fault.policy
    Except.ok (settings.settle path)) = _
  rw [accepted]
  rfl

theorem ofText_of_broken {fault : Json.Fault} (broken : Json.Value.ofText text = .error fault) :
    ofText path text = .error (.malformed (.notJson fault)) := by
  have known : Format.ofExtension? "json" = some .json := rfl
  simp only [ofText,json,known,Format.decode,broken]
  rfl

end Json

end Orthography.Settings
