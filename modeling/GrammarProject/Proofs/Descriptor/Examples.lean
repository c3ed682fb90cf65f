import GrammarProject.Platform.Standard
import GrammarProject.Proofs.Descriptor.Frame
import GrammarProject.Proofs.Glob.Directory
import GrammarProject.Proofs.Path.Order
import GrammarProject.Proofs.Text.Utf8

/-!
# Example files of a directory

With the pattern `*` the example files are all entries of the example directory, in order
(`Reader.handle_examples`), so none of them stands outside the directory of the descriptor. But the
text of this directory is a part of the pattern, so this holds only where it is plain: a bracket in
it lets the files of another directory in (`parse_bracketed_directory`).
-/

namespace GrammarProject.Descriptor

open Markup (Element)

namespace Reader

variable {t : FileTree} {r : Reader}

/-- The directory that a text names, in the directory of the descriptor. -/
def exampleDirectory (r : Reader) (text : List Char) : Path :=
  { r.directory with parts := r.directory.parts ++ (Path.ofString (String.ofList text)).parts }

def exampleBase (r : Reader) (text : List Char) : List Char :=
  Path.withoutEndSlashes (Path.joinText r.directory.text text)

/-- The entries of the directory that a text names, in order. There are none if the directory is
not there, or if the text by which it is looked for is too long. -/
def exampleEntries (t : FileTree) (r : Reader) (text : List Char) : List Path :=
  let names :=
    if FileTree.pathLimit < (String.ofList (r.exampleBase text)).utf8ByteSize then []
    else t.entriesAt (r.exampleDirectory text)
  Path.sorted (names.map (r.exampleDirectory text).child)

theorem joinText_directory_ne_nil (r : Reader) (text : List Char) :
    Path.joinText r.directory.text text ≠ [] := by
  have hd := r.directory.text_ne_nil
  unfold Path.joinText
  split
  · simp
  · split <;> simp_all

theorem exampleBase_ne_nil (r : Reader) (text : List Char) : r.exampleBase text ≠ [] :=
  Path.withoutEndSlashes_ne_nil (r.joinText_directory_ne_nil text)

theorem ofString_exampleBase (hw : r.directory.WellFormed) {text : List Char}
    (hrel : text.head? ≠ some '/') :
    Path.ofString (String.ofList (r.exampleBase text)) = r.exampleDirectory text := by
  rw [exampleBase, Path.ofString_withoutEndSlashes, Path.ofString_joinText_text hw hrel]
  rfl

theorem ofString_under_exampleBase (hw : r.directory.WellFormed) {text : List Char}
    (hrel : text.head? ≠ some '/') {name : String} (hc : Path.IsComponent name) :
    Path.ofString (String.ofList (Glob.under (r.exampleBase text) name.toList)) =
      (r.exampleDirectory text).child name := by
  obtain ⟨c, cs, hhead, hslash⟩ := hc.head
  have hname : name.toList.head? ≠ some '/' := by simp [hhead, hslash]
  rw [Glob.under_eq_joinText hname, Path.ofString_joinText (r.exampleBase_ne_nil text) hname,
    ofString_exampleBase hw hrel, String.ofList_toList, Path.ofString_component hc]
  rfl

theorem examplesIn_of_expand [Platform] {text : List Char} {found : List (List Char)}
    (hcheck : Glob.isMalformed (r.examplePattern text) = false)
    (hexpand : Glob.expand t (r.examplePattern text) = .ok found) :
    r.examplesIn t text = .ok (Path.sorted (found.map fun m => .ofString (String.ofList m))) := by
  simp [examplesIn, checkPattern, hcheck, hexpand]

/-- The example files are the entries of the directory, if its text is plain. -/
theorem examplesIn_eq_entries [Platform] (ht : t.IsProper) (hw : r.directory.WellFormed)
    (hstar : r.target.examplePattern = "*") (hd : Glob.IsPlain r.directory.text) {text : List Char}
    (hp : Glob.IsPlain text) (hrel : text.head? ≠ some '/') :
    r.examplesIn t text = .ok (r.exampleEntries t text) := by
  have hne := r.joinText_directory_ne_nil text
  have hplain : Glob.IsPlain (Path.joinText r.directory.text text) := hd.joinText hp
  have hpattern : r.examplePattern text =
      Path.joinText (Path.joinText r.directory.text text) ['*'] := by
    rw [examplePattern, hstar]
    rfl
  have hnull : '\x00' ∉ (String.ofList (r.exampleBase text)).toList := by
    rw [String.toList_ofList]
    exact fun hm => hplain.2 (Path.mem_of_mem_withoutEndSlashes hm)
  have hsome : String.ofList (r.exampleBase text) ≠ "" := by
    simpa using r.exampleBase_ne_nil text
  rw [examplesIn_of_expand (hpattern ▸ Glob.isMalformed_star hne hplain)
    (hpattern ▸ Glob.expand_star hne hplain), ← exampleBase, FileTree.namesIn_eq hnull hsome,
    ofString_exampleBase hw hrel, exampleEntries, List.map_map]
  refine congrArg (fun found => Except.ok (Path.sorted found)) (List.map_congr_left ?_)
  intro name hname
  refine ofString_under_exampleBase hw hrel ?_
  split at hname
  · cases hname
  · exact (ht.of_mem_entriesAt hname).1

theorem mem_exampleEntries {text : List Char} {p : Path} (h : p ∈ r.exampleEntries t text) :
    ∃ name ∈ t.entriesAt (r.exampleDirectory text), p = (r.exampleDirectory text).child name := by
  have h := (List.mergeSort_perm _ _).subset h
  obtain ⟨name, hname, rfl⟩ := List.mem_map.1 h
  split at hname
  · cases hname
  · exact ⟨name, hname, rfl⟩

theorem placeOf_exampleEntries (ht : t.IsProper) {text : List Char}
    (hup : ".." ∉ (Path.ofString (String.ofList text)).parts) {p : Path}
    (h : p ∈ r.exampleEntries t text) :
    ∃ name, t.placeOf p =
      t.placeOf r.directory ++ (Path.ofString (String.ofList text)).parts ++ [name] := by
  obtain ⟨name, hname, rfl⟩ := mem_exampleEntries h
  have hdots : ".." ∉ [name] := by
    simpa using Ne.symm (ht.of_mem_entriesAt hname).2
  refine ⟨name, ?_⟩
  rw [Path.child, FileTree.placeOf_append hdots, exampleDirectory, FileTree.placeOf_append hup]

/-- **Example files come from the directory of the descriptor.** If the text of this directory is
plain, an element that names a plain relative directory without `..` is handled, and the example
files are all entries of this directory, in order. None stands outside the directory of the
descriptor. -/
theorem handle_examples [Platform] {path encoding : String} {target : Target} (ht : t.IsProper)
    (hr : r.settings = (ofPath path target encoding).settings)
    (hstar : target.examplePattern = "*") (hd : Glob.IsPlain r.directory.text) {e : Element}
    (hfield : Field.ofElement? e = some .exampleFiles) (hp : Glob.IsPlain e.text)
    (hrel : e.text.head? ≠ some '/')
    (hup : ".." ∉ (Path.ofString (String.ofList e.text)).parts) :
    r.handle t e = ({ r with draft := { r.draft with
        examples := r.exampleEntries t e.text, exampleRoot := exampleRoot r.directory } }, none) ∧
      (r.exampleEntries t e.text).Pairwise (fun p q => p.le q = true) ∧
      ∀ p ∈ r.exampleEntries t e.text, ∃ name, t.placeOf p =
        t.placeOf r.directory ++ (Path.ofString (String.ofList e.text)).parts ++ [name] := by
  simp only [settings, Prod.mk.injEq] at hr
  obtain ⟨-, hdirectory, htarget, -, -⟩ := hr
  have hw : r.directory.WellFormed := hdirectory ▸ Path.wellFormed_ofString _
  have hexamples := examplesIn_eq_entries ht hw (htarget ▸ hstar) hd hp hrel
  refine ⟨?_, List.pairwise_mergeSort Path.le_trans Path.le_total _, fun p h =>
    placeOf_exampleEntries ht hup h⟩
  simp only [handle, hfield, handleField, onExampleFiles, hexamples]

section
open scoped Platform

/-- A hidden entry and a directory are entries like all others. -/
theorem handle_examples_hidden :
    let t : FileTree := ⟨[(["repo", "examples", "z"], .file []),
      (["repo", "examples", ".hidden"], .file []), (["repo", "examples", "deep", "x"], .file []),
      (["repo", "other", "y"], .file [])], ["repo"]⟩
    let r := ofPath ".//pom.xml" .go "utf-8"
    let e : Element := ⟨⟨none, "exampleFiles".toList⟩, "./examples//".toList⟩
    t.IsProper ∧ Target.go.examplePattern = "*" ∧ Glob.IsPlain r.directory.text ∧
      Field.ofElement? e = some .exampleFiles ∧ Glob.IsPlain e.text ∧ e.text.head? ≠ some '/' ∧
      ".." ∉ (Path.ofString (String.ofList e.text)).parts ∧
      (r.handle t e).2 = none ∧ (r.handle t e).1.draft.examples =
        ["examples/.hidden", "examples/deep", "examples/z"].map Path.ofString := by
  intro t r e
  have ht : t.IsProper := by decide
  have hstar : Target.go.examplePattern = "*" := by decide
  have hd : Glob.IsPlain r.directory.text := by decide
  have hp : Glob.IsPlain e.text := by decide
  have hrel : e.text.head? ≠ some '/' := by decide
  have hup : ".." ∉ (Path.ofString (String.ofList e.text)).parts := by decide
  have hfield : Field.ofElement? e = some .exampleFiles := by decide
  have hfound : t.entriesAt (r.exampleDirectory e.text) = ["z", ".hidden", "deep"] := by
    decide
  have hperm : List.Perm (["z", ".hidden", "deep"].map (r.exampleDirectory e.text).child)
      (["examples/.hidden", "examples/deep", "examples/z"].map Path.ofString) := by decide
  have hentries : r.exampleEntries t e.text =
      ["examples/.hidden", "examples/deep", "examples/z"].map Path.ofString := by
    rw [exampleEntries, if_neg (by decide), hfound,
      Path.sorted_eq_of_perm (by decide) hperm]
    exact List.mergeSort_of_pairwise (by decide)
  obtain ⟨hhandle, -, -⟩ := handle_examples ht (r := r) rfl hstar hd hfield hp hrel hup
  refine ⟨ht, hstar, hd, hfield, hp, hrel, hup, ?_, ?_⟩
  · rw [hhandle]
  · rw [hhandle]
    exact hentries

end

end Reader

section
open scoped Platform

/-- A descriptor in a directory with brackets in its name: the example files come from another
directory. -/
theorem parse_bracketed_directory :
    let bytes := Text.utf8Bytes "<p><exampleFiles>examples</exampleFiles></p>".toList
    let t : FileTree := ⟨[(["a[b]", "pom.xml"], .file bytes),
      (["a[b]", "examples", "x.txt"], .file []), (["ab", "examples", "y.txt"], .file [])], []⟩
    t.IsProper ∧ t.entriesAt (.ofString "a[b]/examples") = ["x.txt"] ∧
      (parse t "a[b]/pom.xml" .go "utf-8").toOption.map (·.project.examples) =
        some [.ofString "ab/examples/y.txt"] := by
  decide +kernel

end

end GrammarProject.Descriptor
