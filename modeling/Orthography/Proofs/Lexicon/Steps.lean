import Orthography.Proofs.Lexicon.Recall

/-! Questions in steps: the look-up in a memo, on a miss the inner question, and the entry of
its verdict. Run in a row the steps are those of a memo that is not shared; they give the
same answers if others change a sound memo between them. -/
namespace Orthography.Lexicon

/-- A computation that stops at each of its steps on the memo and at each inner question. -/
inductive Steps (α : Type) where
  | done (result : Except Fault α)
  | lookUp (language word : String) (next : Option Bool → Steps α)
  | inquire (language word : String) (next : Except Fault Bool → Steps α)
  | enter (language word : String) (unknown : Bool) (next : Steps α)

namespace Steps

variable {α β : Type}

def bind (steps : Steps α) (f : α → Steps β) : Steps β :=
  match steps with
  | done (.ok value) => f value
  | done (.error fault) => done (.error fault)
  | lookUp language word next => lookUp language word fun held => (next held).bind f
  | inquire language word next => inquire language word fun answer => (next answer).bind f
  | enter language word unknown next => enter language word unknown (next.bind f)

instance : Monad Steps where
  pure value := done (.ok value)
  bind := bind

def ask : Inquiry Steps := fun language word =>
  lookUp language word fun
    | some unknown => done (.ok unknown)
    | none => inquire language word fun
      | .ok unknown => enter language word unknown (done (.ok unknown))
      | .error fault => done (.error fault)

def run (inner : Inquiry (Except Fault)) : Steps α → Memo → Except Fault α × Memo
  | done result, memo => (result,memo)
  | lookUp language word next, memo => (next (memo.verdict? language word)).run inner memo
  | inquire language word next, memo => (next (inner language word)).run inner memo
  | enter language word unknown next, memo => next.run inner (memo.remember language word unknown)

def advance (inner : Inquiry (Except Fault)) (memo : Memo) : Steps α → Steps α × Memo
  | done result => (done result,memo)
  | lookUp language word next => (next (memo.verdict? language word),memo)
  | inquire language word next => (next (inner language word),memo)
  | enter language word unknown next => (next,memo.remember language word unknown)

/-- Whether a computation ends with a result, if what it looks up are inner answers; all that
it enters is one. -/
def Faithful (inner : Inquiry (Except Fault)) (result : Except Fault α) : Steps α → Prop
  | done own => own = result
  | lookUp language word next =>
    (next none).Faithful inner result ∧
      ∀ unknown, inner language word = .ok unknown → (next (some unknown)).Faithful inner result
  | inquire language word next => (next (inner language word)).Faithful inner result
  | enter language word unknown next =>
    inner language word = .ok unknown ∧ next.Faithful inner result

inductive Within (inner : Inquiry (Except Fault)) : Nat → Steps α → Prop where
  | done : Within inner bound (done result)
  | lookUp : (∀ held, Within inner bound (next held)) →
      Within inner (bound + 1) (lookUp language word next)
  | inquire : Within inner bound (next (inner language word)) →
      Within inner (bound + 1) (inquire language word next)
  | enter : Within inner bound next →
      Within inner (bound + 1) (enter language word unknown next)

theorem run_bind (inner : Inquiry (Except Fault)) (x : Steps α) (f : α → Steps β) (memo : Memo) :
    (x >>= f).run inner memo = match x.run inner memo with
      | (.ok value,later) => (f value).run inner later
      | (.error fault,later) => (.error fault,later) := by
  change (x.bind f).run inner memo = _
  induction x generalizing memo with
  | done result => cases result <;> rfl
  | lookUp language word next ih => exact ih (memo.verdict? language word) memo
  | inquire language word next ih => exact ih (inner language word) memo
  | enter language word unknown next ih => exact ih (memo.remember language word unknown)

def running (inner : Inquiry (Except Fault)) : Simulation Steps Recalling where
  Rel x y := ∀ memo, x.run inner memo = y memo
  pure _ _ := rfl
  bind {_ _ x y f g} first next memo := by
    rw [run_bind,bind_apply,first memo]
    rcases y memo with ⟨_ | value,later⟩
    · rfl
    · exact next value later

theorem running_ask (inner : Inquiry (Except Fault)) (language word : String) :
    (running inner).Rel (ask language word) (Memo.ask inner language word) := by
  intro memo
  simp only [ask,run,Memo.ask]
  cases memo.verdict? language word with
  | some unknown => rfl
  | none =>
    cases answer : inner language word <;> simp [run,answer]

/-- What is looked up by a faithful computation may come from any sound memo. -/
def faithful (inner : Inquiry (Except Fault)) : Simulation Steps (Except Fault) where
  Rel x y := x.Faithful inner y
  pure _ := rfl
  bind {_ _ x y f g} first next := by
    change (x.bind f).Faithful inner (y >>= g)
    induction x with
    | done result =>
      subst first
      cases result with
      | error fault => rfl
      | ok value => exact next value
    | lookUp language word later ih =>
      exact ⟨ih none first.1,fun unknown answer => ih (some unknown) (first.2 unknown answer)⟩
    | inquire language word later ih => exact ih _ first
    | enter language word unknown later ih => exact ⟨first.1,ih first.2⟩

theorem faithful_ask (inner : Inquiry (Except Fault)) (language word : String) :
    (faithful inner).Rel (ask language word) (inner language word) := by
  refine ⟨?_,fun unknown answer => answer.symm⟩
  simp only [Faithful]
  cases answer : inner language word with
  | error fault => rfl
  | ok unknown => exact ⟨answer,rfl⟩

/-- A step of a faithful computation on a sound memo leaves both so. -/
theorem Faithful.advance {inner : Inquiry (Except Fault)} {result : Except Fault α}
    {steps : Steps α} {memo : Memo} (faithful : steps.Faithful inner result)
    (sound : memo.Sound inner) :
    (steps.advance inner memo).1.Faithful inner result ∧
      (steps.advance inner memo).2.Sound inner := by
  cases steps with
  | done own => exact ⟨faithful,sound⟩
  | lookUp language word next =>
    refine ⟨?_,sound⟩
    simp only [Steps.advance]
    cases held : memo.verdict? language word with
    | none => exact faithful.1
    | some unknown => exact faithful.2 unknown (sound language word unknown held)
  | inquire language word next => exact ⟨faithful,sound⟩
  | enter language word unknown next => exact ⟨faithful.2,sound.remember faithful.1⟩

namespace Within

variable {inner : Inquiry (Except Fault)}

theorem mono {steps : Steps α} {bound greater : Nat} (within : Within inner bound steps)
    (le : bound ≤ greater) : Within inner greater steps := by
  induction within generalizing greater with
  | done => exact .done
  | lookUp _ ih =>
    obtain ⟨greater,rfl⟩ := Nat.exists_eq_add_of_lt le
    exact .lookUp fun held => ih held (by omega)
  | inquire _ ih =>
    obtain ⟨greater,rfl⟩ := Nat.exists_eq_add_of_lt le
    exact .inquire (ih (by omega))
  | enter _ ih =>
    obtain ⟨greater,rfl⟩ := Nat.exists_eq_add_of_lt le
    exact .enter (ih (by omega))

theorem bind {x : Steps α} {f : α → Steps β} {a b : Nat} (first : Within inner a x)
    (next : ∀ value, Within inner b (f value)) : Within inner (a + b) (x >>= f) := by
  change Within inner (a + b) (x.bind f)
  induction first with
  | @done bound result =>
    cases result with
    | error fault => exact .done
    | ok value => exact (next value).mono (by omega)
  | @lookUp bound next _ _ _ ih =>
    rw [Nat.add_right_comm]
    exact .lookUp ih
  | inquire _ ih =>
    rw [Nat.add_right_comm]
    exact .inquire ih
  | enter _ ih =>
    rw [Nat.add_right_comm]
    exact .enter ih

end Within

theorem within_ask (inner : Inquiry (Except Fault)) (language word : String) :
    Within inner 3 (ask language word) := by
  apply Within.lookUp
  intro held
  cases held with
  | some unknown => exact .done
  | none =>
    apply Within.inquire
    cases inner language word with
    | error fault => exact .done
    | ok unknown => exact .enter .done

theorem within_anyUnknown (inner : Inquiry (Except Fault)) (language : String)
    (words : List String) :
    Within inner (3 * words.length) (ask.anyUnknown language words) := by
  induction words with
  | nil => exact .done
  | cons word rest ih =>
    rw [List.length_cons,Nat.mul_succ,Nat.add_comm]
    apply (within_ask inner language word).bind
    intro unknown
    cases unknown with
    | true => exact .done
    | false => exact ih

/-- No computation goes on for ever. -/
theorem exists_within (inner : Inquiry (Except Fault)) (steps : Steps α) :
    ∃ bound, Within inner bound steps := by
  induction steps with
  | done result => exact ⟨0,.done⟩
  | lookUp language word next ih =>
    obtain ⟨a,missed⟩ := ih none
    obtain ⟨b,known⟩ := ih (some false)
    obtain ⟨c,unknown⟩ := ih (some true)
    refine ⟨a + b + c + 1,.lookUp fun held => ?_⟩
    rcases held with _ | _ | _
    · exact missed.mono (by omega)
    · exact known.mono (by omega)
    · exact unknown.mono (by omega)
  | inquire language word next ih =>
    obtain ⟨bound,within⟩ := ih (inner language word)
    exact ⟨bound + 1,.inquire within⟩
  | enter language word unknown next ih =>
    obtain ⟨bound,within⟩ := ih
    exact ⟨bound + 1,.enter within⟩

end Steps
end Orthography.Lexicon
