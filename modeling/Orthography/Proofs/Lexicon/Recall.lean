import Orthography.Proofs.Simulation

/-! A memo answers like what it was filled from. It only holds verdicts that were given, so
asking by way of it gives the inner answers, errors included, whatever was asked before. -/
namespace Orthography.Lexicon

def Memo.Sound (inner : Inquiry (Except Fault)) (memo : Memo) : Prop :=
  ∀ language word unknown, memo.verdict? language word = some unknown →
    inner language word = .ok unknown

namespace Memo

variable {inner : Inquiry (Except Fault)} {memo : Memo}

theorem sound_empty (inner : Inquiry (Except Fault)) : empty.Sound inner := by
  intro language word unknown held
  simp at held

/-- Remembering a verdict that was given keeps a memo sound. -/
theorem Sound.remember (sound : memo.Sound inner) {language word : String} {unknown : Bool}
    (answer : inner language word = .ok unknown) :
    (memo.remember language word unknown).Sound inner := by
  intro other otherWord verdict held
  rw [verdict?_remember] at held
  split at held
  next same =>
    obtain ⟨rfl,rfl⟩ := Prod.mk.inj same
    rw [answer,Option.some.inj held]
  next => exact sound other otherWord verdict held

end Memo

/-- A value is carried on from the memo that its computation leaves; a fault ends all. -/
theorem bind_apply {α β : Type} (x : Recalling α) (f : α → Recalling β) (memo : Memo) :
    (x >>= f) memo = match x memo with
      | (.ok value,later) => f value later
      | (.error fault,later) => (.error fault,later) := by
  change (match x memo with | (result,later) => ExceptT.bindCont f result later) = _
  rcases x memo with ⟨_ | _,_⟩ <;> rfl

/-- Asking by way of a sound memo gives the inner results and leaves the memo sound. -/
def recalling (inner : Inquiry (Except Fault)) : Simulation Recalling (Except Fault) where
  Rel x y := ∀ memo : Memo, memo.Sound inner → (x memo).1 = y ∧ (x memo).2.Sound inner
  pure _ _ sound := ⟨rfl,sound⟩
  bind {_ _ x y f g} first next memo sound := by
    obtain ⟨same,kept⟩ := first memo sound
    rw [bind_apply]
    rcases h : x memo with ⟨fault | value,later⟩
    · rw [h] at same kept
      subst same
      exact ⟨rfl,kept⟩
    · rw [h] at same kept
      subst same
      exact next value later kept

theorem recalling_ask (inner : Inquiry (Except Fault)) (language word : String) :
    (recalling inner).Rel (Memo.ask inner language word) (inner language word) := by
  intro memo sound
  unfold Memo.ask
  split
  next unknown held => exact ⟨(sound language word unknown held).symm,sound⟩
  next =>
    split
    next unknown answer => exact ⟨answer.symm,sound.remember answer⟩
    next fault answer => exact ⟨answer.symm,sound⟩

end Orthography.Lexicon
