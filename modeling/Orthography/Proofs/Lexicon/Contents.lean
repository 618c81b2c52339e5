import Orthography.Proofs.Lexicon.Account
import Orthography.Proofs.Lexicon.History
import Orthography.Proofs.Lexicon.SharedMemo

/-! What a memo holds after any calls. Calls in known languages enter the words that they come to,
and the others leave nothing, so the history tells the contents. -/
namespace Orthography.Lexicon

namespace Call

def language : Call → String
  | word language _ => language
  | phrase language _ => language

def asked (lexicon : Lexicon) : Call → List (String × String)
  | word language text => [(language,text)]
  | phrase language text =>
    (reached (lexicon.lacks language) (Text.pieces text)).map (language,·)

end Call

namespace Memo

variable (inner : Inquiry (Except Fault))

/-- The memo after calls, one behind the other. A call that fails does not keep the others from
being made. -/
def after (memo : Memo) : List Call → Memo
  | [] => memo
  | call :: rest => (call.answer (Memo.ask inner) memo).2.after rest

def passedOn (memo : Memo) : List Call → List (String × String)
  | [] => []
  | call :: rest =>
    (call.answer Steps.ask).inquired inner memo ++
      (call.answer (Memo.ask inner) memo).2.passedOn rest

theorem size_eq_card {memo : Memo} {keys : Finset (String × String)}
    (same : ∀ language word, memo.verdict? language word ≠ none ↔ (language,word) ∈ keys) :
    memo.size = keys.card := by
  have distinct : memo.verdicts.keys.Nodup := by
    simpa [List.Nodup] using memo.verdicts.distinct_keys
  have listed : ∀ key, key ∈ memo.verdicts.keys ↔ key ∈ keys := by
    rintro ⟨language,word⟩
    rw [Std.HashMap.mem_keys,← same,Std.HashMap.mem_iff_isSome_getElem?]
    simp [verdict?]
  rw [← length_eq_card distinct listed,Std.HashMap.length_keys]
  rfl

end Memo

namespace Steps

variable {α β : Type}

theorem inquired_bind (inner : Inquiry (Except Fault)) (x : Steps α) (f : α → Steps β)
    (memo : Memo) :
    (x >>= f).inquired inner memo = x.inquired inner memo ++ match x.run inner memo with
      | (.ok value,later) => (f value).inquired inner later
      | (.error _,_) => [] := by
  rw [inquired,trace_bind,List.filterMap_append]
  rcases x.run inner memo with ⟨_ | value,later⟩ <;> rfl

/-- Computations that leave every memo as it is and only pass on questions about one language. -/
def idle (lexicon : Lexicon) (language : String) : Simulation Steps Id where
  Rel x _ := ∀ memo, (x.run lexicon.isUnknown memo).2 = memo ∧
    ∀ key ∈ x.inquired lexicon.isUnknown memo, key.1 = language
  pure _ memo := ⟨rfl,by simp [Pure.pure,inquired,trace]⟩
  bind {_ _ x y f g} first next memo := by
    obtain ⟨same,own⟩ := first memo
    rw [run_bind,inquired_bind]
    rcases ran : x.run lexicon.isUnknown memo with ⟨fault | value,later⟩
    · rw [ran] at same
      exact ⟨same,by simpa using own⟩
    · rw [ran] at same
      obtain rfl := same
      obtain ⟨stays,others⟩ := next value later
      refine ⟨stays,fun key member => ?_⟩
      exact (List.mem_append.mp member).elim (own key) (others key)

theorem idle_ask {lexicon : Lexicon} {language : String}
    (foreign : lexicon.knows language = false) (word : String) :
    (idle lexicon language).Rel (ask language word) (lexicon.answer language word) := by
  intro memo
  have answer := isUnknown_of_not_knows foreign word
  cases held : memo.verdict? language word <;>
    simp [ask,run,inquired,trace,held,answer,Event.inquired?]

end Steps

namespace Call

variable {lexicon : Lexicon} (call : Call)

theorem idle_answer (foreign : lexicon.knows call.language = false) :
    (Steps.idle lexicon call.language).Rel (call.answer Steps.ask) (call.answer lexicon.answer) := by
  cases call with
  | word language text => exact Steps.idle_ask foreign text
  | phrase language text => exact (Steps.idle lexicon language).phrase (Steps.idle_ask foreign) text

theorem exists_asks_answer (known : lexicon.knows call.language = true) {memo : Memo}
    (honest : memo.tells lexicon = lexicon.lacks) :
    ∃ value, Steps.Asks lexicon memo (call.answer Steps.ask) value (call.asked lexicon) := by
  cases call with
  | word language text => exact ⟨_,Steps.asks_ask known memo text⟩
  | phrase language text =>
    rw [asked,← honest]
    exact ⟨_,Steps.asks_anyUnknown known memo (Text.pieces text)⟩

/-- All that a call asks about is in its language. -/
theorem language_of_mem_asked {key : String × String} (member : key ∈ call.asked lexicon) :
    key.1 = call.language := by
  cases call with
  | word language text => rw [List.mem_singleton.mp member]; rfl
  | phrase language text =>
    obtain ⟨word,-,rfl⟩ := List.mem_map.mp member
    rfl

end Call

def askedBy (lexicon : Lexicon) (calls : List Call) : List (String × String) :=
  (calls.filter fun call => lexicon.knows call.language).flatMap (Call.asked lexicon)

/-- What calls enter and pass on, by induction on the history: a call in a known language adds to
the account, and any other leaves it as it is. -/
theorem account_after {lexicon : Lexicon} (calls : List Call) {memo : Memo}
    (honest : memo.tells lexicon = lexicon.lacks) :
    memo.Account lexicon (askedBy lexicon calls)
      ((memo.passedOn lexicon.isUnknown calls).filter fun key => lexicon.knows key.1)
      (memo.after lexicon.isUnknown calls) := by
  -- over the calls; what the memo tells stays what the lexicon would answer
  induction calls generalizing memo with
  | nil => exact .refl lexicon memo
  | cons call rest ih =>
    have ran := call.run_answer lexicon.isUnknown memo
    rw [Memo.passedOn,Memo.after,List.filter_append,← ran]
    cases known : lexicon.knows call.language with
    | true =>
      obtain ⟨value,asks⟩ := call.exists_asks_answer known honest
      have own : ∀ key ∈ (call.answer Steps.ask).inquired lexicon.isUnknown memo,
          lexicon.knows key.1 = true := by
        intro key member
        have asked := ((asks.account.mem_passed key.1 key.2).mp member).1
        rw [call.language_of_mem_asked asked,known]
      have listed : askedBy lexicon (call :: rest) = call.asked lexicon ++ askedBy lexicon rest := by
        simp [askedBy,known]
      rw [listed,List.filter_eq_self.mpr own]
      exact asks.account.append (ih (asks.account.tells_eq.trans honest))
    | false =>
      obtain ⟨stays,foreign⟩ := call.idle_answer known memo
      have nothing : ((call.answer Steps.ask).inquired lexicon.isUnknown memo).filter
          (fun key => lexicon.knows key.1) = [] := by
        refine List.filter_eq_nil_iff.mpr fun key member => ?_
        rw [foreign key member,known]
        exact Bool.false_ne_true
      have listed : askedBy lexicon (call :: rest) = askedBy lexicon rest := by
        simp [askedBy,known]
      rw [listed,nothing,stays]
      exact ih honest

/-- After calls on an empty memo, each of which is what its steps do, the memo holds what was asked
about in known languages, where a phrase is left at its first misspelled word, and the verdict on
it; its size is the number of these words. A call in another language leaves any memo as it is.
Each word that is held was passed on exactly once. -/
theorem after_calls (lexicon : Lexicon) (calls : List Call) :
    let memo := Memo.empty.after lexicon.isUnknown calls
    let asked := askedBy lexicon calls
    (∀ (call : Call) before, (call.answer Steps.ask).run lexicon.isUnknown before =
      call.answer (Memo.ask lexicon.isUnknown) before) ∧
    (∀ language word, memo.verdict? language word =
      if (language,word) ∈ asked then some (lexicon.lacks language word) else none) ∧
    memo.size = asked.toFinset.card ∧ (memo.isEmpty = true ↔ asked = []) ∧
    (∀ (call : Call) before, lexicon.knows call.language = false →
      (call.answer (Memo.ask lexicon.isUnknown) before).2 = before) ∧
    (∀ key, lexicon.knows key.1 = true →
      (Memo.empty.passedOn lexicon.isUnknown calls).count key = if key ∈ asked then 1 else 0) := by
  intro memo asked
  have honest : Memo.empty.tells lexicon = lexicon.lacks := by
    funext language word
    simp [Memo.tells]
  have account := account_after calls honest
  have held : ∀ language word, memo.verdict? language word =
      if (language,word) ∈ asked then some (lexicon.lacks language word) else none := by
    intro language word
    rw [account.verdict?,Memo.verdict?_empty,Option.none_or]
  have size : memo.size = asked.toFinset.card := by
    apply Memo.size_eq_card
    intro language word
    simp [held]
  refine ⟨fun call before => call.run_answer lexicon.isUnknown before,held,size,?_,?_,?_⟩
  · simp [Memo.isEmpty,size]
  · intro call before foreign
    rw [← call.run_answer]
    exact (call.idle_answer foreign before).1
  · rintro ⟨language,word⟩ known
    -- the account leaves out what is passed on in languages that are not known
    have counted : ((Memo.empty.passedOn lexicon.isUnknown calls).filter fun key =>
        lexicon.knows key.1).count (language,word) =
          (Memo.empty.passedOn lexicon.isUnknown calls).count (language,word) :=
      List.count_filter known
    have passed := account.mem_passed language word
    rw [Memo.verdict?_empty,and_iff_left rfl] at passed
    rw [← counted]
    split
    next member => exact List.count_eq_one_of_mem account.nodup (passed.mpr member)
    next missing => exact List.count_eq_zero_of_not_mem (mt passed.mp missing)

end Orthography.Lexicon
