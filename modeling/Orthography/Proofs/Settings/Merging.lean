import Orthography.Proofs.Settings.Dictionaries

/-! Settings after any number of overrides. For each part the last override that names it counts,
and the options that the policy is made of are those that were loaded. -/
namespace Orthography.Settings

open MonadAttach (CanReturn)
open LawfulMonadAttach (eq_of_canReturn_pure canReturn_bind_imp')

section Loaded

variable {m : Type → Type} [Monad m]

def Loaded [MonadAttach m] (files : Files m) (settings : Settings) : Prop :=
  (∃ path, CanReturn (load files path) (.ok settings)) ∨ CanReturn (loadFound files) (.ok settings)

variable [LawfulMonad m] [MonadAttach m] [LawfulMonadAttach m] {files : Files m}
  {settings : Settings}

theorem exists_text_of_load {path : String} (loaded : CanReturn (load files path) (.ok settings)) :
    ∃ text, ofText path text = .ok settings := by
  obtain ⟨contents,_,loaded⟩ := canReturn_bind_imp' loaded
  cases contents with
  | error cause => exact nomatch eq_of_canReturn_pure loaded
  | ok text => exact ⟨text,eq_of_canReturn_pure loaded⟩

theorem Loaded.cases (loaded : Loaded files settings) :
    settings = default ∨ ∃ path text, ofText path text = .ok settings := by
  rcases loaded with ⟨path,loaded⟩ | found
  · exact .inr ⟨path,exists_text_of_load loaded⟩
  · obtain ⟨place,_,found⟩ := canReturn_bind_imp' found
    cases place with
    | none => exact .inl (Except.ok.inj (eq_of_canReturn_pure found)).symm
    | some path => exact .inr ⟨path,exists_text_of_load found⟩

theorem Loaded.ordered (loaded : Loaded files settings) : Ordered settings.dictionaries := by
  rcases loaded.cases with rfl | ⟨path,text,loaded⟩
  · exact .nil
  · exact ordered_of_ofText loaded

theorem Loaded.exists_policy (loaded : Loaded files settings) :
    ∃ own, settings.policy = .ok own := by
  rcases loaded.cases with rfl | ⟨path,text,loaded⟩
  · exact ⟨.default,rfl⟩
  · exact exists_policy_of_ofText loaded

end Loaded

structure Merged (base : Settings) (steps : List Override) (settings : Settings) : Prop where
  format : settings.output.format = (steps.filterMap (·.format)).getLast?.getD base.output.format
  verbose : settings.output.verbose =
    (steps.filterMap (·.verbose)).getLast?.getD base.output.verbose
  jobs : settings.engine.jobs = (steps.filterMap (·.jobs)).getLast?.getD base.engine.jobs
  /-- Of the word lists that are named for a language the last one counts. -/
  dictionaries : ∀ language, settings.dictionaries.lookup language =
    ((steps.flatMap (·.dictionaries)).reverse.lookup language).or (base.dictionaries.lookup language)
  ordered : Ordered settings.dictionaries
  /-- What no override has a part for. -/
  kept : settings.engine.parallel = base.engine.parallel ∧
    settings.output.color = base.output.color ∧
    settings.output.statistics = base.output.statistics ∧ settings.exclude = base.exclude ∧
    settings.identifierSpelling = base.identifierSpelling
  policy : settings.policy = base.policy

namespace Merged

variable {base settings : Settings} {steps : List Override}

theorem nil (ordered : Ordered base.dictionaries) : Merged base [] base :=
  ⟨rfl,rfl,rfl,fun _ => rfl,ordered,⟨rfl,rfl,rfl,rfl,rfl⟩,rfl⟩

theorem getLast?_filterMap_concat {α : Type} (part : Override → Option α) (steps : List Override)
    (override : Override) (fallback : α) :
    ((steps ++ [override]).filterMap part).getLast?.getD fallback =
      (part override).getD ((steps.filterMap part).getLast?.getD fallback) := by
  cases named : part override with
  | none => simp only [List.filterMap_append,List.filterMap_cons,named,List.filterMap_nil,
      List.append_nil,Option.getD_none]
  | some own => simp only [List.filterMap_append,List.filterMap_cons,named,List.filterMap_nil,
      List.getLast?_concat,Option.getD_some]

/-- One more override goes over what the others have left. -/
theorem merge (merged : Merged base steps settings) (override : Override) :
    Merged base (steps ++ [override]) (settings.merge override) where
  format := by
    rw [getLast?_filterMap_concat,← merged.format]
    rfl
  verbose := by
    rw [getLast?_filterMap_concat,← merged.verbose]
    rfl
  jobs := by
    rw [getLast?_filterMap_concat,← merged.jobs]
    rfl
  dictionaries language := by
    have last := lookup_setDictionaries override.dictionaries settings.dictionaries language
    rw [merged.dictionaries,← Option.or_assoc,← List.lookup_append,← List.reverse_append] at last
    rw [List.flatMap_append,List.flatMap_singleton]
    exact last
  ordered := merged.ordered.setDictionaries override.dictionaries
  kept := merged.kept
  policy := merged.policy

theorem foldl (merged : Merged base steps settings) (later : List Override) :
    Merged base (steps ++ later) (later.foldl Settings.merge settings) := by
  induction later generalizing steps settings with
  | nil => rwa [List.append_nil]
  | cons override rest ih =>
    have next := ih (merged.merge override)
    rwa [List.append_assoc,List.singleton_append] at next

end Merged

end Orthography.Settings
