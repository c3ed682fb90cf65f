import GrammarProject.Proofs.Descriptor.Rereading
import GrammarProject.Proofs.FileTree.Walking

/-!
# Where references lead

A reference leads to the variant of its path if there is one, and else to the path itself. So the
path that is chosen stands in the directory of the path that is referred to, and has its stem
(`Reader.resolve_chooses`). The path is in lexical normal form; still, a reference whose text leads
to a file when it is walked name by name leads there, or to the variant beside it, and is never
missing (`Reader.onGrammar_of_locate`).
-/

namespace GrammarProject.Descriptor.Reader

open Markup (Element)

variable {t : FileTree} {r : Reader} {text : List Char}

/-! ## The choice of a variant -/

theorem resolve_of_variantOf? {v : List Char}
    (h : r.target.variantOf? (r.reference text).text = some v) :
    r.resolve t text =
      if t.reaches (String.ofList v) then .ofString (String.ofList v) else r.reference text := by
  simp only [resolve, variantOf?, h, Option.map_some]

theorem resolve_of_no_variant (h : r.target.variantOf? (r.reference text).text = none) :
    r.resolve t text = r.reference text := by
  simp only [resolve, variantOf?, h, Option.map_none]

/-- For a target with an extension, the path that is chosen has the text of the variant. -/
theorem text_resolve (hext : '/' ∉ r.target.extension) (hinside : '/' ∉ r.target.inside)
    (hne : r.target.extension ≠ []) {v : List Char}
    (h : r.target.variantOf? (r.reference text).text = some v) :
    (r.resolve t text).text =
      if t.reaches (String.ofList v) then v else (r.reference text).text := by
  obtain ⟨hi, hv⟩ := (Target.variantOf?_eq_some_iff hne).1 h
  obtain ⟨-, -, -, htext⟩ := hv.sibling hne hi hext hinside (reference_isNormal r text).wellFormed
  rw [resolve_of_variantOf? h]
  split
  · exact htext
  · rfl

/-- **The choice of a variant.** A path has a variant just if the target has an infix and the path
ends in its extension; the variant is chosen just if it is there. If the extension is not empty, the
path and what is chosen differ at most by the infix between stem and extension, so they stand in one
directory. -/
theorem resolve_chooses (t : FileTree) (r : Reader) (text : List Char)
    (hext : '/' ∉ r.target.extension) (hinside : '/' ∉ r.target.inside) :
    let path := (r.reference text).text
    let chosen := (r.resolve t text).text
    ((r.target.variantOf? path).isSome = true ↔
        r.target.inside ≠ [] ∧ r.target.extension <:+ path) ∧
      (r.target.variantOf? path = none → r.resolve t text = r.reference text) ∧
      (∀ v, r.target.variantOf? path = some v → r.resolve t text =
        if t.reaches (String.ofList v) then .ofString (String.ofList v) else r.reference text) ∧
      (r.target.extension = [] → r.target.inside ≠ [] →
        r.target.variantOf? path = some r.target.inside) ∧
      (r.target.extension ≠ [] →
        (∀ v, r.target.variantOf? path = some v → r.target.IsVariant path v ∧
          chosen = if t.reaches (String.ofList v) then v else path) ∧
        (chosen = path ∨ r.target.IsVariant path chosen) ∧
        (∀ stem, path = stem ++ r.target.extension → stem <+: chosen) ∧
        Path.directoryText chosen = Path.directoryText path) := by
  intro path chosen
  refine ⟨Target.isSome_variantOf?_iff path, resolve_of_no_variant,
    fun v => resolve_of_variantOf?, fun h hi => Target.variantOf?_no_extension h hi path,
    fun hne => ?_⟩
  have hv : ∀ v, r.target.variantOf? path = some v → r.target.IsVariant path v ∧
      chosen = if t.reaches (String.ofList v) then v else path := fun v h =>
    ⟨((Target.variantOf?_eq_some_iff hne).1 h).2, text_resolve hext hinside hne h⟩
  have hchosen : chosen = path ∨ r.target.IsVariant path chosen := by
    cases h : r.target.variantOf? path with
    | none => exact .inl (congrArg Path.text (resolve_of_no_variant h))
    | some v =>
      obtain ⟨hvariant, htext⟩ := hv v h
      by_cases hthere : t.reaches (String.ofList v) = true
      · rw [if_pos hthere] at htext
        exact .inr (htext ▸ hvariant)
      · rw [if_neg hthere] at htext
        exact .inl htext
  refine ⟨hv, hchosen, fun stem hstem => ?_, ?_⟩
  · rcases hchosen with h | ⟨stem', hstem', h⟩
    · exact ⟨r.target.extension, by rw [h, hstem]⟩
    · obtain rfl : stem = stem' := List.append_cancel_right (hstem.symm.trans hstem')
      exact ⟨_, h.symm⟩
  · rcases hchosen with h | ⟨stem, hstem, h⟩
    · rw [h]
    · rw [h, hstem, Path.directoryText_append stem (by simp [hext, hinside]),
        Path.directoryText_append stem hext]

/-- An infix that ends like the extension, below a directory that ends in it too. -/
theorem resolve_chooses_repeated :
    let target : Target :=
      { Target.named "twice" with variantInfix := some ".g4", grammarExtension := "g4" }
    let t : FileTree := ⟨[(["a.g4", "Fg4"], .file []), (["a.g4", "F.g4g4"], .file [])], []⟩
    let r := ofPath "a.g4/pom.xml" target "utf-8"
    '/' ∉ r.target.extension ∧ '/' ∉ r.target.inside ∧ r.target.extension ≠ [] ∧
      (r.reference "./Fg4".toList).text = "a.g4/Fg4".toList ∧
      (r.resolve t "./Fg4".toList).text = "a.g4/F.g4g4".toList ∧
      "a.g4/F".toList <+: (r.resolve t "./Fg4".toList).text := by
  intro target t r
  have hext : '/' ∉ r.target.extension := by decide
  have hinside : '/' ∉ r.target.inside := by decide
  have hne : r.target.extension ≠ [] := by decide
  have hpath : (r.reference "./Fg4".toList).text = "a.g4/F".toList ++ r.target.extension := by
    decide
  obtain ⟨-, -, -, -, hchoice⟩ := resolve_chooses t r "./Fg4".toList hext hinside
  obtain ⟨-, -, hstem, -⟩ := hchoice hne
  exact ⟨hext, hinside, hne, by decide, by decide +kernel, hstem _ hpath⟩

/-- **With an empty extension the stem is lost**: the variant of any path is the infix alone, a file
in the working directory. -/
theorem resolve_no_extension :
    let target : Target :=
      { Target.named "bare" with variantInfix := some ".GoTarget", grammarExtension := "" }
    let t : FileTree := ⟨[(["d", "Foo"], .file []), ([".GoTarget"], .file [])], []⟩
    let r := ofPath "d/pom.xml" target "utf-8"
    '/' ∉ r.target.extension ∧ '/' ∉ r.target.inside ∧
      (r.reference "Foo".toList).text = "d/Foo".toList ∧
      r.target.variantOf? "d/Foo".toList = some ".GoTarget".toList ∧
      ¬r.target.IsVariant "d/Foo".toList ".GoTarget".toList ∧
      (r.resolve t "Foo".toList).text = ".GoTarget".toList ∧
      ¬"d/Foo".toList <+: (r.resolve t "Foo".toList).text := by
  intro target t r
  refine ⟨by decide, by decide, by decide, by decide, ?_, by decide +kernel,
    by decide +kernel⟩
  rintro ⟨stem, hpath, hvariant⟩
  -- The variant is too short to hold the stem.
  have hstem := congrArg List.length hpath
  have hlength := congrArg List.length hvariant
  have hadded : (r.target.inside ++ r.target.extension).length = 9 := by decide
  have hext : r.target.extension.length = 0 := by decide
  simp only [List.length_append] at hstem hlength hadded
  rw [show "d/Foo".toList.length = 5 from rfl] at hstem
  rw [show ".GoTarget".toList.length = 9 from rfl] at hlength
  omega

/-! ## Walking to a reference -/

section
variable [Platform]

theorem IsOrderly.handleAll (h : r.IsOrderly) (es : List Element) :
    (r.handleAll t es).1.IsOrderly := by
  induction es generalizing r with
  | nil => exact h
  | cons e es ih =>
    have he := h.handleAmid (.still t) e
    rw [handleAmid_still] at he
    rw [Reader.handleAll]
    rcases hr : r.handle t e with ⟨next, _ | f⟩ <;> rw [hr] at he
    · exact ih he
    · exact he

omit [Platform] in
theorem recordReference_there (r : Reader) (file : Path) (header : Except Failure Grammar) :
    let next := (r.recordReference file (.ok true) header).1
    file ∈ next.draft.includes ∧ ∃ added, next.findings = r.findings ++ added ∧
      ∀ f ∈ added, ∀ missing descriptor, f ≠ .missingGrammar missing descriptor := by
  unfold recordReference
  dsimp only
  split
  · rename_i hm
    exact ⟨Draft.hasInclude_iff.1 hm, [], by simp, by simp⟩
  · have hmem : file ∈ (r.draft.addInclude file).includes := by simp [Draft.addInclude]
    split
    · unfold recordGrammar
      dsimp only
      split
      · exact ⟨hmem, [_], rfl, by simp⟩
      · exact ⟨hmem, [], by simp, by simp⟩
    · split
      · exact ⟨hmem, [_], rfl, by simp⟩
      · exact ⟨hmem, [], by simp, by simp⟩

theorem mem_includes_of_handleAll {es : List Element} {last : Reader}
    (h : r.handleAll t es = (last, none)) (hmem : text ∈ Field.grammar.texts es) {file : Path}
    (hto : r.leadsTo? t text = some file) (hthere : isThere t file = .ok true) :
    file ∈ last.draft.includes := by
  rw [handleAll_eq_handleFields] at h
  obtain ⟨-, -, hsettled⟩ := handleFields_settles h
  rw [Field.textsOf_said] at hsettled
  rw [← leadsTo?_congr (settings_of_handleFields h)] at hto
  obtain ⟨there, hp, hi⟩ := hsettled text hmem file hto
  rw [hthere] at hp
  cases hp
  exact hi rfl

omit [Platform] in
theorem leadsTo?_of_trim (h : Text.trim text ≠ []) :
    r.leadsTo? t text = some (r.resolve t (Text.trim text)) := by
  unfold leadsTo?
  split
  · rename_i hnil
    exact absurd hnil h
  · rename_i hcons
    rw [hcons]

omit [Platform] in
/-- For a registered target, what a reference leads to is the path or, if it is there, the variant
that its text names. -/
theorem resolve_cases (ht : r.target ∈ Target.registered) (text : List Char) :
    (r.resolve t text = r.reference text ∧
        ∀ v, r.variantOf? (r.reference text) = some v → t.reaches v = false) ∨
      (r.variantOf? (r.reference text) = some (r.resolve t text).toString ∧
        t.reaches (r.resolve t text).toString = true) := by
  cases h : r.target.variantOf? (r.reference text).text with
  | none =>
    refine .inl ⟨resolve_of_no_variant h, fun v hv => ?_⟩
    rw [variantOf?, h] at hv
    cases hv
  | some v =>
    have hvariant : r.variantOf? (r.reference text) = some (String.ofList v) := by
      rw [variantOf?, h, Option.map_some]
    obtain ⟨hext, hinside, hne⟩ := Target.plain_of_registered ht
    have htext := text_resolve (t := t) hext hinside hne h
    by_cases hthere : t.reaches (String.ofList v) = true
    · rw [if_pos hthere] at htext
      have hstring : (r.resolve t text).toString = String.ofList v := congrArg String.ofList htext
      exact .inr ⟨hvariant.trans (by rw [hstring]), by rw [hstring, hthere]⟩
    · refine .inl ⟨?_, fun v' hv' => ?_⟩
      · rw [resolve_of_variantOf? h, if_neg hthere]
      · rw [hvariant] at hv'
        cases hv'
        exact eq_false_of_ne_true hthere

/-- **A reference whose text leads to a file** when it is walked name by name: the path in lexical
normal form leads to the same file, so the reference leads to this path or to the variant beside it,
which it includes and never finds missing. Other references to the same path add nothing. -/
theorem onGrammar_of_locate (ht : r.target ∈ Target.registered) (hne : Text.trim text ≠ [])
    {place : Location}
    (hwalk : t.locate (String.ofList (Path.joinText r.directory.text (Text.trim text))) =
      .ok place) :
    let path := r.reference (Text.trim text)
    t.locate path.toString = .ok place ∧ ∃ file, r.leadsTo? t text = some file ∧
      ((file = path ∧ ∀ v, r.variantOf? path = some v → t.reaches v = false) ∨
        (r.variantOf? path = some file.toString ∧ t.reaches file.toString = true)) ∧
      (∀ next failure, r.onGrammar t text = (next, failure) → file ∈ next.draft.includes ∧
        ∃ added, next.findings = r.findings ++ added ∧
          ∀ f ∈ added, ∀ missing descriptor, f ≠ .missingGrammar missing descriptor) ∧
      ∀ other, Text.trim other ≠ [] → r.reference (Text.trim other) = path →
        r.leadsTo? t other = some file ∧
          (r.draft.Orderly → ∀ es last, r.handleAll t es = (last, none) →
            (text ∈ Field.grammar.texts es ∨ other ∈ Field.grammar.texts es) →
              last.draft.includes.count file = 1) := by
  intro path
  have hpath : t.locate path.toString = .ok place := FileTree.locate_normal hwalk
  have hto := leadsTo?_of_trim (t := t) (r := r) hne
  have hcases := resolve_cases (t := t) ht (Text.trim text)
  have hthere : isThere t (r.resolve t (Text.trim text)) = .ok true := by
    refine isThere_of_reaches ?_
    rcases hcases with ⟨heq, -⟩ | ⟨-, hreaches⟩
    · rw [heq]
      exact FileTree.reaches_of_locate hpath
    · exact hreaches
  refine ⟨hpath, r.resolve t (Text.trim text), hto, hcases, fun next failure hnext => ?_,
    fun other hother hsame => ?_⟩
  · rw [onGrammar_eq, hto] at hnext
    dsimp only at hnext
    rw [hthere] at hnext
    have hrecord := recordReference_there r (r.resolve t (Text.trim text))
      (Grammar.read t (r.resolve t (Text.trim text)) r.encoding)
    rw [hnext] at hrecord
    exact hrecord
  · have hto' : r.leadsTo? t other = some (r.resolve t (Text.trim text)) := by
      rw [leadsTo?_of_trim hother]
      unfold resolve
      rw [hsame]
    refine ⟨hto', fun hdraft es last hlast hmem => ?_⟩
    have hnodup : last.draft.includes.Nodup := by
      have horderly := IsOrderly.handleAll (t := t) ⟨ht, hdraft⟩ es
      rw [hlast] at horderly
      exact horderly.2.includes_nodup
    have hincluded : r.resolve t (Text.trim text) ∈ last.draft.includes := by
      rcases hmem with hmem | hmem
      · exact mem_includes_of_handleAll hlast hmem hto hthere
      · exact mem_includes_of_handleAll hlast hmem hto' hthere
    exact List.count_eq_one_of_mem hnodup hincluded

end

section
open scoped Platform

/-- A reference that goes above the top of the tree and down again to a grammar file with a variant,
and another to the same path. -/
theorem onGrammar_of_locate_above :
    let text := " ../.././../w//proj/../proj/F.g4\n".toList
    let other := "../../../w/proj/F.g4".toList
    let t : FileTree := ⟨[(["w", "proj", "F.g4"], .file []),
      (["w", "proj", "F.GoTarget.g4"], .file [])], ["w"]⟩
    let r := ofPath "proj/pom.xml" .go "utf-8"
    let place := ["w", "proj", "F.g4"]
    r.target ∈ Target.registered ∧ Text.trim text ≠ [] ∧
      t.locate (String.ofList (Path.joinText r.directory.text (Text.trim text))) = .ok place ∧
      t.locate (r.reference (Text.trim text)).toString = .ok place ∧
      (r.reference (Text.trim text)).toString = "../../w/proj/F.g4" ∧
      r.leadsTo? t text = some (.ofString "../../w/proj/F.GoTarget.g4") ∧
      r.leadsTo? t other = r.leadsTo? t text := by
  intro text other t r place
  have ht : r.target ∈ Target.registered := by decide
  have hne : Text.trim text ≠ [] := by decide
  have hwalk : t.locate (String.ofList (Path.joinText r.directory.text (Text.trim text))) =
      .ok place := by decide +kernel
  obtain ⟨hpath, file, hto, -, -, hsame⟩ := onGrammar_of_locate ht hne hwalk
  obtain ⟨hother, -⟩ := hsame other (by decide) (by decide +kernel)
  exact ⟨ht, hne, hwalk, hpath, by decide, by decide +kernel, hother.trans hto.symm⟩

end

end GrammarProject.Descriptor.Reader
