import Piste.Proofs.Text.Rendition
import Piste.Report

/-!
# Messages without escape sequences

A message is made of fixed texts, of numbers, and of the strings that its error holds. So it is
clean if these strings are: `strings` says for each kind of error which strings these are, and
`clean_message` that they are all that matters. The texts that the operating system has for its
errors are clean themselves, and so is quoted text.
-/

namespace Piste

open Diagram Firmware Text

namespace Text

theorem toString_eq_self (s : String) : toString s = s :=
  rfl

theorem clean_intercalate {s : String} {list : List String} (hs : Clean s)
    (hlist : ∀ t ∈ list, Clean t) : Clean (s.intercalate list) := by
  match list with
  | [] => exact clean_literal rfl
  | [t] =>
    rw [String.intercalate_singleton]
    exact hlist t List.mem_cons_self
  | t :: u :: list =>
    rw [List.forall_mem_cons] at hlist
    rw [String.intercalate_cons_cons]
    exact clean_append.2 ⟨clean_append.2 ⟨hlist.1, hs⟩, clean_intercalate hs hlist.2⟩

/-! ## Numbers -/

theorem digitChar_ne_escape : ∀ d < 16, Nat.digitChar d ≠ escape := by
  decide

theorem escape_notMem_toDigits {base : Nat} (hbase : 1 < base ∧ base ≤ 16) (n : Nat) :
    escape ∉ Nat.toDigits base n := by
  induction n using Nat.strongRecOn with
  | ind n ih =>
    rw [Nat.toDigits_eq_if hbase.1]
    split
    · rw [List.mem_singleton]
      exact (digitChar_ne_escape n (by omega)).symm
    · have hless : n / base < n := Nat.div_lt_self (by omega) hbase.1
      have hdigit : n % base < base := Nat.mod_lt n (by omega)
      rw [List.mem_append, List.mem_singleton, not_or]
      exact ⟨ih _ hless, (digitChar_ne_escape _ (by omega)).symm⟩

theorem clean_natText (n : Nat) : Clean (toString n) := by
  rw [Nat.toString_eq_ofList_toDigits]
  exact clean_ofList (escape_notMem_toDigits (by omega) n)

theorem clean_intText (n : Int) : Clean (toString n) := by
  rw [Int.toString_eq_repr, Int.repr_eq_if]
  split
  · exact clean_natText _
  · exact clean_append.2 ⟨clean_literal rfl, clean_natText _⟩

/-! ## Quoted text -/

theorem escape_notMem_quotedChar (c : Char) : escape ∉ quotedChar c := by
  unfold quotedChar
  split
  all_goals try decide
  split
  · rename_i hprintable
    rw [List.mem_singleton]
    rintro rfl
    have hnot : isPrintable escape = false := by
      decide +kernel
    rw [hnot] at hprintable
    cases hprintable
  · rw [List.mem_append, List.mem_append, not_or, not_or]
    exact ⟨⟨by decide, escape_notMem_toDigits (by omega) _⟩, by decide⟩

theorem clean_quoted (text : String) : Clean (quoted text) := by
  apply clean_ofList
  simp only [List.mem_append, List.mem_cons, List.mem_flatMap, List.not_mem_nil, or_false]
  rintro ((hquote | ⟨c, -, hc⟩) | hquote)
  · exact absurd hquote (by decide)
  · exact escape_notMem_quotedChar c hc
  · exact absurd hquote (by decide)

end Text

/-! ## Decimals -/

namespace Decimal

theorem escape_notMem_noughts (count : Nat) : escape ∉ noughts count := by
  intro hmem
  exact absurd (List.eq_of_mem_replicate hmem) (by decide)

theorem Digits.clean_positional (d : Digits) : Clean d.positional := by
  have hdigits : escape ∉ d.digits.repr.toList := clean_natText d.digits
  have hpadded (count : Nat) : escape ∉ noughts count ++ d.digits.repr.toList := by
    rw [List.mem_append, not_or]
    exact ⟨escape_notMem_noughts count, hdigits⟩
  unfold positional
  split
  · apply clean_ofList
    rw [List.mem_append, not_or]
    exact ⟨hdigits, escape_notMem_noughts _⟩
  · apply clean_ofList
    rw [List.mem_append, List.mem_cons]
    rintro (hwhole | hpoint | hfraction)
    · exact hpadded _ (List.mem_of_mem_take hwhole)
    · exact absurd hpoint (by decide)
    · exact hpadded _ (List.mem_of_mem_drop hfraction)

theorem clean_floatText (x : Float) : Clean (floatText x) := by
  unfold floatText
  split
  · exact clean_literal rfl
  · split <;> exact clean_literal rfl
  · rename_i negative mantissa exponent _
    have htext : Clean (if mantissa = 0 then "0" else (shortest mantissa exponent).positional) := by
      split
      · exact clean_literal rfl
      · exact Digits.clean_positional _
    simp only
    split
    · exact clean_append.2 ⟨clean_literal rfl, htext⟩
    · exact htext

end Decimal

/-! ## Errors of the machine -/

namespace Host

theorem clean_systemText (n : Int) : Clean (systemText n) := by
  unfold systemText
  split
  rotate_right
  -- a number without a text of its own
  · exact clean_append.2 ⟨clean_literal rfl, clean_intText n⟩
  all_goals exact clean_literal rfl

/-- The strings that the error holds. -/
def IoError.strings : IoError → List String
  | system _ => []
  | other text => [text]

theorem IoError.clean_message {error : IoError} (h : ∀ s ∈ error.strings, Clean s) :
    Clean error.message := by
  cases error with
  | system n =>
    unfold message
    simp only [clean_append, toString_eq_self, clean_systemText, clean_intText, true_and, and_true]
    and_intros <;> exact clean_literal rfl
  | other text => exact h text List.mem_cons_self

end Host

/-! ## Errors of documents -/

namespace Yaml

/-- The strings that the step holds. -/
def Step.strings : Step → List String
  | field name => [name]
  | item _ | unnamed => []

theorem Place.clean_text {place : Place} (h : ∀ s ∈ place.flatMap Step.strings, Clean s) :
    Clean place.text := by
  induction place with
  | nil => exact clean_literal rfl
  | cons step outer ih =>
    rw [List.flatMap_cons, List.forall_mem_append] at h
    obtain ⟨hstep, houter⟩ := h
    have hbefore := ih houter
    have hdotted : Clean (if outer.isEmpty then "" else text outer ++ ".") := by
      split
      · exact clean_literal rfl
      · exact clean_append.2 ⟨hbefore, clean_literal rfl⟩
    cases step with
    | field name => exact clean_append.2 ⟨hdotted, hstep name List.mem_cons_self⟩
    | item index =>
      unfold text
      simp only [clean_append, toString_eq_self, clean_natText, hbefore, true_and, and_true]
      and_intros <;> exact clean_literal rfl
    | unnamed => exact clean_append.2 ⟨hdotted, clean_literal rfl⟩

theorem clean_alternatives {names : List String} (h : ∀ s ∈ names, Clean s) :
    Clean (alternatives names) := by
  unfold alternatives
  split
  · simp only [List.forall_mem_cons] at h
    simp only [clean_append, toString_eq_self, h, and_true]
    and_intros <;> exact clean_literal rfl
  · simp only [List.forall_mem_cons] at h
    simp only [clean_append, toString_eq_self, h, and_true]
    and_intros <;> exact clean_literal rfl
  · refine clean_append.2 ⟨clean_literal rfl, ?_⟩
    refine clean_intercalate (clean_literal rfl) (List.forall_mem_map.2 ?_)
    intro name hname
    simp only [clean_append, toString_eq_self, h name hname, and_true]
    and_intros <;> exact clean_literal rfl

/-- The strings that the fault holds. -/
def Fault.strings : Fault → List String
  | wrongKind found expected => [found, expected]
  | wrongText text expected => [text, expected]
  | wrongLength _ expected => [expected]
  | unknownField name known => name :: known
  | duplicateField name | missingField name => [name]
  | localTag | noConnection => []
  | unknownMarker marker source target expected => [marker, source, target, expected]

theorem Fault.clean_message {fault : Fault} (h : ∀ s ∈ fault.strings, Clean s) :
    Clean fault.message := by
  cases fault <;> unfold message <;> simp only [strings, List.forall_mem_cons] at h
  case unknownField =>
    simp only [clean_append, toString_eq_self, h, clean_alternatives h.2, and_true]
    and_intros <;> exact clean_literal rfl
  case localTag | noConnection => exact clean_literal rfl
  all_goals
    simp only [clean_append, toString_eq_self, clean_natText, clean_quoted, h, and_true]
    and_intros <;> exact clean_literal rfl

/-- The strings that the error holds. -/
def ReadError.strings : ReadError → List String
  | malformed words => [words]
  | tooDeep | tooManyAliases => []
  | wrong place fault => place.flatMap Step.strings ++ fault.strings

theorem ReadError.clean_message {error : ReadError} (h : ∀ s ∈ error.strings, Clean s) :
    Clean error.message := by
  cases error
  case malformed words => exact h words (List.mem_singleton_self words)
  case wrong place fault =>
    rw [strings, List.forall_mem_append] at h
    have hfault := Fault.clean_message h.2
    cases place with
    | nil => exact hfault
    | cons step outer =>
      refine clean_append.2 ⟨clean_append.2 ⟨Place.clean_text h.1, ?_⟩, hfault⟩
      exact clean_literal rfl
  all_goals exact clean_literal rfl

end Yaml

/-! ## Errors of diagrams -/

namespace Diagram

/-- The strings that the error holds. -/
def LayoutError.strings : LayoutError → List String
  | noTerminals | invalidScale _ => []
  | unknownTerminal id | duplicateTerminal id | offCanvas id _ | tooWide id _
  | missingLabelWidth id => [id]
  | missingDistance left right | nonPositiveStep left right _ => [left, right]

theorem LayoutError.clean_message {error : LayoutError} (h : ∀ s ∈ error.strings, Clean s) :
    Clean error.message := by
  cases error <;> unfold message <;> simp only [strings, List.forall_mem_cons] at h
  case noTerminals => exact clean_literal rfl
  all_goals
    simp only [clean_append, toString_eq_self, clean_natText, clean_intText,
      Decimal.clean_floatText, h, and_true]
    and_intros <;> exact clean_literal rfl

/-- The strings that the error holds. -/
def DrawError.strings : DrawError → List String
  | unknownTerminal id | selfConnection id => [id]

theorem DrawError.clean_message {error : DrawError} (h : ∀ s ∈ error.strings, Clean s) :
    Clean error.message := by
  cases error <;> unfold message <;> simp only [strings, List.forall_mem_cons] at h
  all_goals
    simp only [clean_append, toString_eq_self, h, and_true]
    and_intros <;> exact clean_literal rfl

end Diagram

/-! ## Errors of firmware -/

namespace Firmware

/-- The strings that the error holds. -/
def CertificateError.strings : CertificateError → List String
  | inputNotFound path => [path]
  | unreadable path error | unwritable path error => path :: error.strings
  | invalidIdentifier name => [name]
  | template cause => [cause]

theorem CertificateError.clean_message {error : CertificateError}
    (h : ∀ s ∈ error.strings, Clean s) : Clean error.message := by
  cases error <;> unfold message <;> simp only [strings, List.forall_mem_cons] at h
  case unreadable | unwritable =>
    simp only [clean_append, h, Host.IoError.clean_message h.2, and_true]
    and_intros <;> exact clean_literal rfl
  all_goals
    simp only [clean_append, toString_eq_self, h, and_true]
    and_intros <;> exact clean_literal rfl

/-- The strings that the error holds. -/
def PackageError.strings : PackageError → List String
  | missingInputs paths => paths
  | createDirectory path error => path :: error.strings
  | copy source target error => source :: target :: error.strings
  | start program error => program :: error.strings
  | failed program errorOutput => [program, errorOutput]

theorem PackageError.clean_message {error : PackageError} (h : ∀ s ∈ error.strings, Clean s) :
    Clean error.message := by
  cases error <;> unfold message <;> simp only [strings, List.forall_mem_cons] at h
  case missingInputs =>
    have hpaths := clean_intercalate (s := ", ") (clean_literal rfl) h
    exact clean_append.2 ⟨clean_literal rfl, hpaths⟩
  case createDirectory | start =>
    simp only [clean_append, h, Host.IoError.clean_message h.2, and_true]
    and_intros <;> exact clean_literal rfl
  case copy =>
    simp only [clean_append, h, Host.IoError.clean_message h.2.2, and_true]
    and_intros <;> exact clean_literal rfl
  case failed =>
    simp only [clean_append, h, true_and, and_true]
    exact clean_literal rfl

end Firmware

end Piste
