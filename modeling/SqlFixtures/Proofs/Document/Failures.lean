import SqlFixtures.Document.Assertions
import SqlFixtures.Proofs.Dialect.Registry
import SqlFixtures.Proofs.Document.Format
import SqlFixtures.Proofs.Xml.Faults
import Mathlib.Tactic

/-!
# Failures of reading a document

Once the bytes of a document make up an element tree, reading cases fails only with faults of the
document, and reading assertions fails with these or at a database type that the registry does not
know.  Bytes that make up no element tree are a fault of the document as well, with one exception:
an encoding that is declared but cannot be used is reported as such, without the resource.
-/

namespace SqlFixtures.Document

open Record (Fields)
open Results (FailsOnly)
open Xml (DeclaresUnusable Element)

/-- The failure is a fault of the document that the resource holds. -/
def IsFaultOf (resource : Value) (failure : Failure) : Prop :=
  ∃ fault, failure = .document fault resource

/-- The failure is a database type that the registry does not know. -/
def IsUnknownIn (registry : Registry) (failure : Failure) : Prop :=
  ∃ owner literal, failure = registry.unknown owner literal

variable {registry : Registry} {resource : Value} {bytes : List UInt8}

/-! ## From the element tree on -/

theorem blames_casesOfElement (root : Element) : Blames resource (casesOfElement resource root) :=
  Blames.bind (blames_expectRoot _ root) fun _ => Blames.mapM blames_caseOfElement root.children

theorem blames_addExpected (fields : Fields) (children : List Element) :
    Blames resource (addExpected resource fields children) := by
  induction children generalizing fields with
  | nil => exact blames_ok fields
  | cons e children ih =>
      unfold addExpected
      apply Blames.bind (blames_expectTag _ e)
      intro _
      split
      · exact blames_fail _
      · exact ih _

theorem failsOnly_resolveAll (owner : Value) (names : List String) :
    FailsOnly (IsUnknownIn registry) (registry.resolveAll owner names) := by
  intro failure hfails
  obtain ⟨-, name, -, -, -, -, hfailure⟩ := Registry.resolveAll_eq_error_iff.mp hfails
  exact ⟨owner, name, hfailure⟩

theorem Blames.failsOnly_or {α : Type} {result : Except Failure α} {other : Failure → Prop}
    (hresult : Blames resource result) :
    FailsOnly (fun failure => IsFaultOf resource failure ∨ other failure) result := by
  intro failure hfails
  exact Or.inl (hresult failure hfails)

theorem failsOnly_assertOfElement (e : Element) :
    FailsOnly (fun failure => IsFaultOf resource failure ∨ IsUnknownIn registry failure)
      (assertOfElement registry resource e) := by
  unfold assertOfElement
  apply FailsOnly.bind (blames_expectTag _ e).failsOnly_or
  intro _
  apply FailsOnly.bind (blames_addExpected _ _).failsOnly_or
  intro fields
  apply FailsOnly.bind (blames_accept _ _).failsOnly_or
  intro a
  apply FailsOnly.bind
  · exact (failsOnly_resolveAll _ _).imp fun _ => Or.inr
  · intro _ failure hfails
    cases hfails

theorem failsOnly_assertsOfElement (root : Element) :
    FailsOnly (fun failure => IsFaultOf resource failure ∨ IsUnknownIn registry failure)
      (assertsOfElement registry resource root) := by
  unfold assertsOfElement
  apply FailsOnly.bind (blames_expectRoot _ root).failsOnly_or
  exact fun _ => FailsOnly.mapM failsOnly_assertOfElement root.children

/-! ## From the bytes on -/

theorem rootOf_eq_error_iff {failure : Failure} :
    rootOf resource bytes = .error failure ↔
      ∃ fault, Xml.parse bytes = .error fault ∧ failureOf resource fault = failure := by
  unfold rootOf
  cases Xml.parse bytes with
  | ok root => simp [Except.mapError]
  | error fault => simp [Except.mapError]

section

variable {α : Type} {read : Element → Except Failure α} {allowed : Failure → Prop}

theorem bind_rootOf_eq_encoding_error_iff {fault : Text.EncodingFault}
    (hread : ∀ root, FailsOnly allowed (read root))
    (hencoding : ∀ fault, ¬ allowed (.encoding fault)) :
    (rootOf resource bytes >>= read) = .error (.encoding fault) ↔
      DeclaresUnusable bytes fault := by
  have hlater : ¬ ∃ root, rootOf resource bytes = .ok root ∧
      read root = .error (.encoding fault) := by
    rintro ⟨root, -, hfails⟩
    exact hencoding fault (hread root _ hfails)
  rw [Results.bind_eq_error_iff, or_iff_left hlater, rootOf_eq_error_iff,
    ← Xml.parse_eq_encoding_error_iff]
  constructor
  · rintro ⟨parseFault, hparse, hfailure⟩
    cases parseFault with
    | malformed => cases hfailure
    | encoding other =>
        cases hfailure
        exact hparse
  · intro hparse
    exact ⟨_, hparse, rfl⟩

theorem failsOnly_bind_rootOf_iff (hread : ∀ root, FailsOnly allowed (read root))
    (hencoding : ∀ fault, ¬ allowed (.encoding fault))
    (hdocument : ∀ fault, allowed (.document fault resource)) :
    FailsOnly allowed (rootOf resource bytes >>= read) ↔
      ∀ fault, ¬ DeclaresUnusable bytes fault := by
  constructor
  · intro honly fault hunusable
    have hfails : (rootOf resource bytes >>= read) = .error (.encoding fault) :=
      (bind_rootOf_eq_encoding_error_iff hread hencoding).mpr hunusable
    exact hencoding fault (honly _ hfails)
  · intro husable
    refine FailsOnly.bind ?_ hread
    intro failure hfails
    obtain ⟨fault, hparse, rfl⟩ := rootOf_eq_error_iff.mp hfails
    cases fault with
    | malformed => exact hdocument .malformed
    | encoding fault => exact absurd (Xml.parse_eq_encoding_error_iff.mp hparse) (husable fault)

end

theorem not_isFaultOf_encoding (fault : Text.EncodingFault) :
    ¬ IsFaultOf resource (.encoding fault) := by
  rintro ⟨_, ⟨⟩⟩

theorem not_isFaultOf_or_isUnknownIn_encoding (fault : Text.EncodingFault) :
    ¬ (IsFaultOf resource (.encoding fault) ∨ IsUnknownIn registry (.encoding fault)) := by
  rintro (⟨_, ⟨⟩⟩ | ⟨_, _, ⟨⟩⟩)

theorem readCases_eq_encoding_error_iff {fault : Text.EncodingFault} :
    readCases resource bytes = .error (.encoding fault) ↔ DeclaresUnusable bytes fault :=
  bind_rootOf_eq_encoding_error_iff blames_casesOfElement not_isFaultOf_encoding

theorem readAsserts_eq_encoding_error_iff {fault : Text.EncodingFault} :
    readAsserts registry resource bytes = .error (.encoding fault) ↔
      DeclaresUnusable bytes fault :=
  bind_rootOf_eq_encoding_error_iff failsOnly_assertsOfElement
    not_isFaultOf_or_isUnknownIn_encoding

/-- Reading cases fails only with faults of the document, and reading assertions only with these or
at an unknown database type, for exactly those documents that declare no unusable encoding.  Reading
any other document ends in what is wrong with its encoding. -/
theorem reading_fails_as_announced_iff (registry : Registry) (resource : Value)
    (bytes : List UInt8) :
    (FailsOnly (IsFaultOf resource) (readCases resource bytes) ↔
      ∀ fault, ¬ DeclaresUnusable bytes fault) ∧
    (FailsOnly (fun failure => IsFaultOf resource failure ∨ IsUnknownIn registry failure)
        (readAsserts registry resource bytes) ↔
      ∀ fault, ¬ DeclaresUnusable bytes fault) ∧
    ∀ fault,
      (readCases resource bytes = .error (.encoding fault) ↔ DeclaresUnusable bytes fault) ∧
      (readAsserts registry resource bytes = .error (.encoding fault) ↔
        DeclaresUnusable bytes fault) := by
  have hown : ∀ fault, IsFaultOf resource (.document fault resource) := fun fault => ⟨fault, rfl⟩
  refine ⟨?_, ?_, fun fault => ⟨?_, ?_⟩⟩
  · exact failsOnly_bind_rootOf_iff blames_casesOfElement not_isFaultOf_encoding hown
  · exact failsOnly_bind_rootOf_iff failsOnly_assertsOfElement
      not_isFaultOf_or_isUnknownIn_encoding fun fault => Or.inl (hown fault)
  · exact readCases_eq_encoding_error_iff
  · exact readAsserts_eq_encoding_error_iff

def unknownEncoding : List UInt8 :=
  "<?xml version='1.0' encoding='bogus'?><sql-cases/>".toUTF8.toList

def multiByteEncoding : List UInt8 :=
  "<?xml version='1.0' encoding='gb2312'?><sql-asserts/>".toUTF8.toList

theorem declaresUnusable_unknownEncoding : DeclaresUnusable unknownEncoding (.unknown "bogus") := by
  refine ⟨"bogus", ?_, ?_⟩
  · decide +kernel
  · rw [← Results.failure?_eq_some_iff]
    decide +kernel

theorem declaresUnusable_multiByteEncoding : DeclaresUnusable multiByteEncoding .multiByte := by
  refine ⟨"gb2312", ?_, ?_⟩
  · decide +kernel
  · rw [← Results.failure?_eq_some_iff]
    decide +kernel

/-- An encoding that nobody knows, or that needs several bytes for a character, is no fault of the
document. -/
theorem reading_fails_otherwise_at_unusable_encoding :
    readCases "a.xml" unknownEncoding = .error (.encoding (.unknown "bogus")) ∧
      ¬ FailsOnly (IsFaultOf "a.xml") (readCases "a.xml" unknownEncoding) ∧
      readAsserts .standard "a.xml" multiByteEncoding = .error (.encoding .multiByte) ∧
      ¬ FailsOnly (fun failure => IsFaultOf "a.xml" failure ∨ IsUnknownIn .standard failure)
        (readAsserts .standard "a.xml" multiByteEncoding) := by
  have hcases : readCases "a.xml" unknownEncoding = .error (.encoding (.unknown "bogus")) :=
    readCases_eq_encoding_error_iff.mpr declaresUnusable_unknownEncoding
  have hasserts : readAsserts .standard "a.xml" multiByteEncoding =
      .error (.encoding .multiByte) :=
    readAsserts_eq_encoding_error_iff.mpr declaresUnusable_multiByteEncoding
  refine ⟨hcases, ?_, hasserts, ?_⟩
  · intro honly
    exact not_isFaultOf_encoding _ (honly _ hcases)
  · intro honly
    exact not_isFaultOf_or_isUnknownIn_encoding _ (honly _ hasserts)

end SqlFixtures.Document
