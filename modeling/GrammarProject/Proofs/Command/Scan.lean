import GrammarProject.Command.Scan
import GrammarProject.Proofs.Command.Output
import GrammarProject.Proofs.Descriptor.Failures
import GrammarProject.Proofs.Glob.Search

/-!
# Scans

The descriptors of a scan are read one by one, each by itself. One that can be read gives its row;
one that cannot gives none, and the scan goes on behind it, unless its failure is one that commands
do not expect (`interruption?`). So the rows of a scan are those of the descriptors before the first
such failure (`scan_isolates`), and one descriptor that declares an encoding that is not known keeps
back all rows behind it (`scan_unknown_encoding`).
-/

namespace GrammarProject.Command

open Descriptor (Reading)

/-! ## One descriptor -/

/-- The failure that a result is, if commands do not expect it. -/
def unexpected? {α : Type} : Except Failure α → Option Failure
  | .ok _ => none
  | .error f => if f.isExpected then none else some f

section
variable [Platform]

section
variable (t : FileTree) (target : Target) (p : Path)

def readingOf : Except Failure Reading := Descriptor.parse t p.toString target grammarEncoding

/-- The row of a descriptor that can be read. -/
def row? : Option String := (readingOf t target p).toOption.map fun r => projectRow p r.project

/-- The failure of a descriptor that ends a scan: one that commands do not expect. -/
def interruption? : Option Failure := unexpected? (readingOf t target p)

end

variable {t : FileTree} {request : ScanRequest} {target : Target} {p : Path}

section
variable {r : Reading} (h : readingOf t target p = .ok r)
include h

theorem row?_of_ok : row? t target p = some (projectRow p r.project) := by
  rw [row?, h]
  rfl

theorem interruption?_of_ok : interruption? t target p = none := by
  rw [interruption?, h, unexpected?]

end

section
variable {f : Failure} (h : readingOf t target p = .error f)
include h

theorem row?_of_error : row? t target p = none := by
  rw [row?, h]
  rfl

theorem interruption?_of_error :
    interruption? t target p = if f.isExpected then none else some f := by
  rw [interruption?, h, unexpected?]

end

theorem interruption?_isSome_iff : (interruption? t target p).isSome = true ↔
    ∃ f, readingOf t target p = .error f ∧ f.isExpected = false := by
  cases h : readingOf t target p with
  | ok r => simp [interruption?_of_ok h]
  | error f => cases hf : f.isExpected <;> simp [interruption?_of_error h, hf]

theorem scanOne_of_ok {r : Reading} (h : readingOf t request.target p = .ok r) :
    ∃ lines, scanOne t request p = (lines, none) ∧ outputs lines = [projectRow p r.project] := by
  unfold readingOf Descriptor.parse at h
  unfold scanOne
  rcases hread : (Descriptor.Reader.ofPath p.toString request.target grammarEncoding).read t with
    ⟨reader, result⟩
  rw [hread] at h
  obtain rfl : result = .ok r := h
  exact ⟨_, rfl, by simp⟩

theorem scanOne_of_error {f : Failure} (h : readingOf t request.target p = .error f) :
    ∃ lines, scanOne t request p = (lines, some f) ∧ outputs lines = [] := by
  unfold readingOf Descriptor.parse at h
  unfold scanOne
  rcases hread : (Descriptor.Reader.ofPath p.toString request.target grammarEncoding).read t with
    ⟨reader, result⟩
  rw [hread] at h
  obtain rfl : result = .error f := h
  dsimp only
  cases f.isExpected with
  | true => exact ⟨_, rfl, by simp⟩
  | false => exact ⟨_, rfl, by simp⟩

/-! ## All descriptors -/

section
variable {one : Path → List Line × Option Failure} {ps : List Path} {lines : List Line}

omit [Platform]

theorem scanEach_cons_of_none (h : one p = (lines, none)) :
    scanEach one (p :: ps) = (lines ++ (scanEach one ps).1, (scanEach one ps).2) := by
  rw [scanEach, h]

theorem scanEach_cons_of_expected {f : Failure} (h : one p = (lines, some f))
    (hf : f.isExpected = true) : scanEach one (p :: ps) =
      (lines ++ (scanEach one ps).1, (scanEach one ps).2.map (· + 1)) := by
  rw [scanEach, h]
  exact if_pos hf

theorem scanEach_cons_of_unexpected {f : Failure} (h : one p = (lines, some f))
    (hf : f.isExpected = false) : scanEach one (p :: ps) = (lines, .error f) := by
  rw [scanEach, h]
  exact if_neg (by simp [hf])

end

/-- **The rows of a scan** are those of the descriptors before the first that ends it. The result is
how many could not be read, or the failure of the one that ends the scan. -/
theorem scanEach_eq (t : FileTree) (request : ScanRequest) (ps : List Path) :
    outputs (scanEach (scanOne t request) ps).1 =
        (ps.takeWhile fun p => (interruption? t request.target p).isNone).filterMap
          (row? t request.target) ∧
      (scanEach (scanOne t request) ps).2 =
        match ps.findSome? (interruption? t request.target) with
        | none => .ok (ps.countP fun p => (row? t request.target p).isNone)
        | some f => .error f := by
  induction ps with
  | nil => exact ⟨rfl, rfl⟩
  | cons p ps ih =>
    obtain ⟨hrows, hresult⟩ := ih
    cases h : readingOf t request.target p with
    | ok r =>
      obtain ⟨lines, hone, hlines⟩ := scanOne_of_ok h
      have hrow := row?_of_ok h
      have hnone := interruption?_of_ok h
      rw [scanEach_cons_of_none hone]
      constructor
      · rw [outputs_append, hlines, hrows]
        simp [hnone, hrow]
      · rw [hresult]
        simp [hnone, hrow]
    | error f =>
      obtain ⟨lines, hone, hlines⟩ := scanOne_of_error h
      have hrow := row?_of_error h
      have hends := interruption?_of_error h
      cases hf : f.isExpected with
      | true =>
        -- The failure is told in the log, and the scan goes on.
        have hnone : interruption? t request.target p = none := by rw [hends, hf, if_pos rfl]
        rw [scanEach_cons_of_expected hone hf]
        constructor
        · rw [outputs_append, hlines, hrows]
          simp [hnone, hrow]
        · rw [hresult, List.findSome?_cons, hnone]
          cases ps.findSome? (interruption? t request.target) with
          | none => simp [hrow, Except.map]
          | some f' => rfl
      | false =>
        -- The scan ends here.
        have hsome : interruption? t request.target p = some f := by
          rw [hends, hf]
          rfl
        rw [scanEach_cons_of_unexpected hone hf]
        exact ⟨by simp [hlines, hsome], by simp [hsome]⟩

omit [Platform] in
theorem ending_ofReport_of_unexpected {f : Failure} (h : f.isExpected = false) :
    (Transcript.ofReport f.report).ending = .escaped f.report := by
  have hcode : f.report.exitCode? = none := by simpa [Failure.isExpected] using h
  rw [Transcript.ofReport, hcode]
  rfl

theorem isExpected_of_interruption {f : Failure} (h : interruption? t target p = some f) :
    f.isExpected = false := by
  cases hr : readingOf t target p with
  | ok r => simp [interruption?_of_ok hr] at h
  | error g =>
    rw [interruption?_of_error hr] at h
    split at h
    · cases h
    · rename_i hg
      cases h
      simpa using hg

section
variable {found : List Path} {lines : List Line}
  (h : Descriptor.search t request.root request.name = .ok found)
include h

theorem scan_of_finished {unread : Nat}
    (hscan : scanEach (scanOne t request) found = (lines, .ok unread)) :
    scan t request =
      ⟨foundLine found.length request.root :: lines ++ unreadLines unread found.length,
        .finished⟩ := by
  simp only [scan, h, hscan]

theorem scan_of_interrupted {f : Failure}
    (hscan : scanEach (scanOne t request) found = (lines, .error f)) :
    scan t request =
      (Transcript.ofReport f.report).behind (foundLine found.length request.root :: lines) := by
  simp only [scan, h, hscan]

/-- What a scan hands over and how it ends, if the descriptors are found. -/
theorem scan_outputs :
    outputs (scan t request).lines =
        (found.takeWhile fun p => (interruption? t request.target p).isNone).filterMap
          (row? t request.target) ∧
      (scan t request).ending = match found.findSome? (interruption? t request.target) with
        | none => .finished
        | some f => .escaped f.report := by
  obtain ⟨hrows, hresult⟩ := scanEach_eq t request found
  rcases hscan : scanEach (scanOne t request) found with ⟨lines, result⟩
  rw [hscan] at hrows hresult
  rw [← hrows]
  cases hfirst : found.findSome? (interruption? t request.target) with
  | none =>
    rw [hfirst] at hresult
    obtain rfl : result = _ := hresult
    rw [scan_of_finished h hscan]
    exact ⟨by simp, rfl⟩
  | some f =>
    rw [hfirst] at hresult
    obtain rfl : result = _ := hresult
    obtain ⟨p, -, hp⟩ := List.exists_of_findSome?_eq_some hfirst
    rw [scan_of_interrupted h hscan]
    constructor
    · rw [Transcript.behind, outputs_append, outputs_ofReport]
      simp
    · exact ending_ofReport_of_unexpected (isExpected_of_interruption hp)

end

theorem pairwise_of_search {root name : String} {found : List Path}
    (h : Descriptor.search t root name = .ok found) :
    found.Pairwise fun p q => p.le q = true := by
  unfold Descriptor.search at h
  cases hsearch : Glob.search t (.ofString root) name with
  | error e =>
    rw [hsearch] at h
    cases h
  | ok paths =>
    rw [hsearch] at h
    cases h
    rcases Glob.search_cases hsearch with rfl | ⟨-, selected, -, -, rfl⟩
    · exact .nil
    · exact Path.pairwise_sorted selected

theorem search_of_select {root name : String} {parts : List Glob.SearchPart} {found : List Path}
    (hparts : Glob.searchParts name = .ok parts)
    (hroot : Glob.tested t Node.isDirectory (.ofString root) = .ok true)
    (hselect : Glob.select t (.anyDirectory :: parts) (.ofString root) = .ok found)
    (hsorted : found.Pairwise fun p q => p.le q = true) :
    Descriptor.search t root name = .ok found := by
  have hsearch : Glob.search t (.ofString root) name = .ok (Path.sorted found) := by
    simp [Glob.search, hparts, hroot, hselect, bind, Except.bind, pure, Except.pure]
  rw [Descriptor.search, hsearch, Path.sorted, List.mergeSort_of_pairwise hsorted]
  rfl

theorem row?_eq_some_iff {row : String} : row? t target p = some row ↔
    ∃ r, readingOf t target p = .ok r ∧ row = projectRow p r.project := by
  cases h : readingOf t target p with
  | ok r => simp [row?_of_ok h, eq_comm]
  | error f => simp [row?_of_error h]

/-- Descriptors are read in an encoding of grammars that decodes everything. -/
theorem decodesAll_grammarEncoding : Grammar.DecodesAll grammarEncoding :=
  Grammar.decodesAll_of_named? (by decide)

/-- **Which descriptors end a scan.** -/
theorem interruption?_isSome_iff_meets :
    let reader := Descriptor.Reader.ofPath p.toString target grammarEncoding
    (interruption? t target p).isSome = true ↔
      '\x00' ∈ reader.path.toString.toList ∨ reader.MeetsEncoding t ∨ reader.MeetsDepth t :=
  interruption?_isSome_iff.trans
    (Descriptor.parse_fails_unexpectedly_iff decodesAll_grammarEncoding)

/-- **Each descriptor of a scan stands for itself.** A scan goes through the descriptors in the
order of their paths and hands over a row for each that can be read, the one that the descriptor has
by itself. A descriptor that cannot be read has no row and does not end the scan, unless it declares
an encoding that descriptors are not read in, or its path holds U+0000, or its example files are
looked for too deep: then there are no rows behind it. -/
theorem scan_isolates {found : List Path}
    (h : Descriptor.search t request.root request.name = .ok found) :
    let reached := found.takeWhile fun p => (interruption? t request.target p).isNone
    found.Pairwise (fun p q => p.le q = true) ∧
      outputs (scan t request).lines = reached.filterMap (row? t request.target) ∧
      (∀ p row, row? t request.target p = some row ↔
        ∃ r, Descriptor.parse t p.toString request.target grammarEncoding = .ok r ∧
          row = projectRow p r.project) ∧
      (∀ p, (interruption? t request.target p).isSome = true ↔
        let reader := Descriptor.Reader.ofPath p.toString request.target grammarEncoding
        '\x00' ∈ reader.path.toString.toList ∨ reader.MeetsEncoding t ∨ reader.MeetsDepth t) ∧
      ((∀ p ∈ found, (interruption? t request.target p).isNone = true) →
        reached = found ∧ (scan t request).ending = .finished) ∧
      ∀ f, found.findSome? (interruption? t request.target) = some f →
        (scan t request).ending = .escaped f.report := by
  intro reached
  obtain ⟨hrows, hending⟩ := scan_outputs h
  refine ⟨pairwise_of_search h, hrows, fun p row => row?_eq_some_iff,
    fun p => interruption?_isSome_iff_meets, ?_, ?_⟩
  · intro hnone
    have hfirst : found.findSome? (interruption? t request.target) = none := by
      rw [List.findSome?_eq_none_iff]
      intro p hp
      simpa using hnone p hp
    rw [hfirst] at hending
    exact ⟨List.takeWhile_eq_self_iff.2 hnone, hending⟩
  · intro f hf
    rw [hf] at hending
    exact hending

end

section
open scoped Platform

/-- Of three descriptors one is not well-formed and one is a directory; the third has its row. -/
theorem scan_isolates_broken :
    let t : FileTree := ⟨[(["a", "pom.xml"], .file (Text.utf8Bytes "<p".toList)),
      (["b", "pom.xml"], .directory), (["c", "pom.xml"], .file (Text.utf8Bytes "<p/>".toList))], []⟩
    let request : ScanRequest := ⟨".", .go, "pom.xml", false⟩
    let found := ["a/pom.xml", "b/pom.xml", "c/pom.xml"].map Path.ofString
    Descriptor.search t request.root request.name = .ok found ∧
      outputs (scan t request).lines =
        ["c/pom.xml\t-\t0\t('c/pom.xml' does not contain a parser)"] ∧
      (scan t request).ending = .finished := by
  intro t request found
  have h : Descriptor.search t request.root request.name = .ok found :=
    search_of_select (ok_of_toOption (a := [.name "pom.xml"]) (by decide))
      (ok_of_toOption (by decide +kernel)) (ok_of_toOption (by decide +kernel)) (by decide)
  have hnone : ∀ p ∈ found, (interruption? t request.target p).isNone = true := by decide +kernel
  obtain ⟨-, hrows, -, -, hall, -⟩ := scan_isolates h
  obtain ⟨hreached, hending⟩ := hall hnone
  refine ⟨h, ?_, hending⟩
  rw [hrows, hreached]
  decide +kernel

/-- **An encoding that is not known ends a scan**: the row of the descriptor behind is not handed
over. -/
theorem scan_unknown_encoding :
    let t : FileTree := ⟨[
      (["a", "pom.xml"],
        .file (Text.utf8Bytes "<?xml version=\"1.0\" encoding=\"nope\"?><p/>".toList)),
      (["b", "pom.xml"], .file (Text.utf8Bytes "<p/>".toList))], []⟩
    let request : ScanRequest := ⟨".", .go, "pom.xml", false⟩
    let found := ["a/pom.xml", "b/pom.xml"].map Path.ofString
    t.IsProper ∧ Descriptor.search t request.root request.name = .ok found ∧
      row? t request.target (.ofString "b/pom.xml") =
        some "b/pom.xml\t-\t0\t('b/pom.xml' does not contain a parser)" ∧
      outputs (scan t request).lines = [] := by
  intro t request found
  have h : Descriptor.search t request.root request.name = .ok found :=
    search_of_select (ok_of_toOption (a := [.name "pom.xml"]) (by decide))
      (ok_of_toOption (by decide +kernel)) (ok_of_toOption (by decide +kernel)) (by decide)
  refine ⟨by decide, h, by decide +kernel, ?_⟩
  rw [(scan_outputs h).1]
  decide +kernel

end

end GrammarProject.Command
