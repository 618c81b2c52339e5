import Mathlib.Data.List.Lex
import Orthography.FilePath
import Orthography.Proofs.Text.Parts

/-! The order of paths, and the spellings that are one path to it. Any two lists of parts are equal,
or one of them precedes the other, so that sorting by parts leaves no choice but among paths with
equal ones. -/
namespace Orthography.FilePath

namespace Part

theorem precedes_name {s t : String} : (name s).precedes (name t) = true ↔ s < t :=
  decide_eq_true_iff

instance : IsStrictTotalOrder Part fun part other => part.precedes other = true where
  irrefl part := by
    cases part with
    | name s => exact precedes_name.not.mpr (String.lt_irrefl s)
    | _ => decide
  trans first second third before after := by
    cases first <;> cases second <;> cases third
    case name.name.name =>
      rw [precedes_name] at *
      exact String.lt_trans before after
    all_goals simp_all [precedes,rank]
  trichotomous first second notBefore notAfter := by
    cases first <;> cases second
    case name.name =>
      rw [precedes_name] at notBefore notAfter
      exact congrArg name (String.le_antisymm notAfter notBefore)
    all_goals simp_all [precedes,rank]

end Part

theorem precedes_iff_lex {first second : List Part} : precedes first second = true ↔
    List.Lex (fun part other => part.precedes other = true) first second := by
  induction first generalizing second with
  | nil => cases second <;> simp [precedes]
  | cons part first ih =>
    cases second with
    | nil => simp [precedes]
    | cons other second => simp [precedes,ih,List.cons_lex_cons_iff]

section Order

variable {first second third : List Part}

theorem precedes_irrefl (path : List Part) : precedes path path = false := by
  rw [Bool.eq_false_iff,Ne,precedes_iff_lex]
  exact irrefl_of _ path

theorem ne_of_precedes (before : precedes first second = true) : first ≠ second := by
  rintro rfl
  rw [precedes_irrefl] at before
  exact nomatch before

theorem precedes_asymm (before : precedes first second = true) : precedes second first = false := by
  rw [Bool.eq_false_iff,Ne,precedes_iff_lex]
  rw [precedes_iff_lex] at before
  exact asymm_of _ before

theorem precedes_trichotomy (first second : List Part) :
    precedes first second = true ∨ first = second ∨ precedes second first = true := by
  rw [precedes_iff_lex,precedes_iff_lex]
  exact trichotomous_of _ first second

/-- What does not follow a path that does not follow another does not follow that either. -/
theorem not_precedes_trans (after : precedes second first = false)
    (later : precedes third second = false) : precedes third first = false := by
  rw [Bool.eq_false_iff,Ne,precedes_iff_lex] at *
  exact fun before => (IsOrderConnected.conn _ second _ before).elim later after

theorem precedes_trans (before : precedes first second = true)
    (later : precedes second third = true) : precedes first third = true := by
  by_contra apart
  rw [Bool.not_eq_true] at apart
  -- else the second would not follow the first, as it does not follow the third
  have wrong := not_precedes_trans (precedes_asymm later) apart
  rw [before] at wrong
  exact nomatch wrong

end Order

section Idle

def beginning (path : String) : List Part :=
  if isAbsolute path then [.root] else if (segments path).head? == some "." then [.here] else []

def counted (path : String) : List Part := ((segments path).filter (!isIdle ·)).map partOf

theorem parts_eq (path : String) : parts path = beginning path ++ counted path := rfl

theorem segments_append_slash (front back : String) :
    segments (front ++ "/" ++ back) = segments front ++ segments back := by
  have cut := @Text.splitAt_append_cons '/' front.toList back.toList
  simp [segments,String.toList_append,cut]

theorem segments_ne_nil (path : String) : segments path ≠ [] := by
  simp [segments,Text.splitAt_ne_nil]

theorem counted_append_slash (front back : String) :
    counted (front ++ "/" ++ back) = counted front ++ counted back := by
  simp [counted,segments_append_slash]

theorem head?_segments_append_slash (front back : String) :
    (segments (front ++ "/" ++ back)).head? = (segments front).head? := by
  rw [segments_append_slash,List.head?_append_of_ne_nil _ (segments_ne_nil front)]

theorem isAbsolute_append {front : String} (shown : front ≠ "") (back : String) :
    isAbsolute (front ++ back) = isAbsolute front := by
  have some : front.toList ≠ [] := by simpa using shown
  rw [isAbsolute,String.toList_append,List.head?_append_of_ne_nil _ some,isAbsolute]

theorem beginning_append_slash (front back other : String) :
    beginning (front ++ "/" ++ back) = beginning (front ++ "/" ++ other) := by
  have slash : front ++ "/" ≠ "" := by simp
  simp only [beginning,isAbsolute_append slash,head?_segments_append_slash]

/-- Nothing between two separators, or a dot, changes nothing. -/
theorem parts_idle {between : String} (idle : counted between = []) (front back : String) :
    parts (front ++ "/" ++ between ++ "/" ++ back) = parts (front ++ "/" ++ back) := by
  have regrouped : front ++ "/" ++ between ++ "/" ++ back =
      front ++ "/" ++ (between ++ "/" ++ back) := by simp only [String.append_assoc]
  rw [regrouped,parts_eq,parts_eq,beginning_append_slash front _ back,counted_append_slash,
    counted_append_slash,counted_append_slash,idle,List.nil_append]

theorem parts_trailing {path : String} (shown : path ≠ "") : parts (path ++ "/") = parts path := by
  have nothing : path ++ "/" ++ "" = path ++ "/" := String.append_empty
  have begins : beginning (path ++ "/") = beginning path := by
    have first := head?_segments_append_slash path ""
    rw [nothing] at first
    rw [beginning,isAbsolute_append shown,first,beginning]
  have counts : counted (path ++ "/") = counted path := by
    rw [← nothing,counted_append_slash]
    exact List.append_nil _
  rw [parts_eq,begins,counts,parts_eq]

end Idle

end Orthography.FilePath
