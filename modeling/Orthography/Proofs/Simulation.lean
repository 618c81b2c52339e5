import Orthography.Lint

/-! What is asked and what is answered. All that is checked is written over any way of
asking, so two ways whose single answers belong together also belong together on phrases,
names, declarations and files. -/
namespace Orthography

/-- A relation between the computations of two monads that is kept when related ones are
carried on alike. -/
structure Simulation (m n : Type → Type) [Monad m] [Monad n] where
  Rel : {α : Type} → m α → n α → Prop
  pure : ∀ {α : Type} (a : α), Rel (pure a) (pure a)
  bind : ∀ {α β : Type} {x : m α} {y : n α} {f : α → m β} {g : α → n β},
    Rel x y → (∀ a, Rel (f a) (g a)) → Rel (x >>= f) (y >>= g)

namespace Simulation

variable {m n : Type → Type} [Monad m] [Monad n] (sim : Simulation m n)
  {ask : Inquiry m} {other : Inquiry n}

section Phrase

variable {language : String}
  (asked : ∀ word, sim.Rel (ask language word) (other language word))

include asked

theorem anyUnknown (words : List String) :
    sim.Rel (ask.anyUnknown language words) (other.anyUnknown language words) := by
  induction words with
  | nil => exact sim.pure false
  | cons word rest ih =>
    apply sim.bind (asked word)
    intro unknown
    cases unknown with
    | true => exact sim.pure true
    | false => exact ih

theorem phrase (text : String) :
    sim.Rel (ask.phrase language text) (other.phrase language text) :=
  sim.anyUnknown asked (Text.pieces text)

theorem allUnknown (words : List String) :
    sim.Rel (ask.allUnknown language words) (other.allUnknown language words) := by
  induction words with
  | nil => exact sim.pure []
  | cons word rest ih =>
    apply sim.bind (asked word)
    intro unknown
    apply sim.bind ih
    intro others
    exact sim.pure _

end Phrase

section Verdict

variable {policy : Policy}
  (asked : ∀ word, sim.Rel (ask policy.language word) (other policy.language word))

include asked

theorem evaluate (kind : Declaration.Kind) (name : String) (position : Nat) :
    sim.Rel (Verdict.evaluate ask policy kind name position)
      (Verdict.evaluate other policy kind name position) := by
  unfold Verdict.evaluate
  split
  · exact sim.pure none
  extract_lets words
  split
  · exact sim.pure none
  apply sim.bind (sim.phrase asked _)
  intro unknown
  cases unknown with
  | false => exact sim.pure none
  | true =>
    apply sim.bind (sim.allUnknown asked _)
    intro misspelled
    cases misspelled with
    | nil => exact sim.pure none
    | cons first others => exact sim.pure _

theorem ofDeclaration (declaration : Declaration) :
    sim.Rel (Verdict.ofDeclaration ask policy declaration)
      (Verdict.ofDeclaration other policy declaration) := by
  unfold Verdict.ofDeclaration
  split
  · exact sim.pure none
  split
  · apply sim.bind (sim.evaluate asked ..)
    intro found
    exact sim.pure _
  · exact sim.pure none

theorem violations (source : String) (declarations : List Declaration) :
    sim.Rel (Lint.violations ask policy source declarations)
      (Lint.violations other policy source declarations) := by
  induction declarations with
  | nil => exact sim.pure []
  | cons declaration rest ih =>
    apply sim.bind (sim.ofDeclaration asked declaration)
    intro found
    apply sim.bind ih
    intro others
    exact sim.pure _

theorem checkFile (input : Lint.Input) :
    sim.Rel (Lint.checkFile ask policy input) (Lint.checkFile other policy input) := by
  unfold Lint.checkFile
  split
  · exact sim.pure _
  · apply sim.bind (sim.violations asked ..)
    intro found
    exact sim.pure _

theorem checkFiles (inputs : List Lint.Input) :
    sim.Rel (Lint.checkFiles ask policy inputs) (Lint.checkFiles other policy inputs) := by
  induction inputs with
  | nil => exact sim.pure []
  | cons input rest ih =>
    apply sim.bind (sim.checkFile asked input)
    intro report
    apply sim.bind ih
    intro others
    exact sim.pure _

theorem checkAll (settings : Settings) (inputs : List Lint.Input) :
    sim.Rel (Lint.checkAll ask settings policy inputs)
      (Lint.checkAll other settings policy inputs) := by
  apply sim.bind (sim.checkFiles asked _)
  intro reports
  exact sim.pure _

end Verdict

def answering [LawfulMonad m] : Simulation m Id where
  Rel x y := x = Pure.pure y.run
  pure _ := rfl
  bind {_ _ x y f g} same next := by
    rw [same,pure_bind,next]
    rfl

def equal : Simulation m m where
  Rel x y := x = y
  pure _ := rfl
  bind same next := by rw [same,funext next]

end Simulation
end Orthography
