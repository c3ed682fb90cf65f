import GrammarProject.Proofs.Descriptor.Degradation
import GrammarProject.Proofs.FileTree.Agreement
import GrammarProject.Proofs.Markup.Parts

/-!
# Handling elements while the document is read

Elements are handled as they end, and what is wrong behind them is told afterwards. A descriptor may
be read in chunks of any size (`Reader.readChunks`): the elements that end in a chunk are handled
before what shows to be wrong in it is told, and what comes of this does not depend on where the
chunks end (`readChunks_flatten`). Only the bytes that the parser puts off to the end are read at
one go: if something is wrong there, no element that ends in them is handled. `read_streams` says
which elements are handled, up to the first that cannot be.
-/

namespace GrammarProject.Descriptor

open Markup (Document DocumentReader Element Stop behind endedIn wrongIn)

/-! ## Failures of handlers -/

theorem ofHeader_ne_malformed (line : List Char) (kind : Grammar.Kind) (file descriptor : Path)
    (fault : Markup.Fault) :
    Grammar.ofHeader line kind file ≠ .error (.malformedDescriptor descriptor fault) := by
  unfold Grammar.ofHeader
  split <;> nofun

section
variable [Platform]

theorem read_ne_malformed {t : FileTree} {file : Path} {encoding : String} {f : Failure}
    (h : Grammar.read t file encoding = .error f) (descriptor : Path) (fault : Markup.Fault) :
    f ≠ .malformedDescriptor descriptor fault := by
  rintro rfl
  unfold Grammar.read at h
  split at h
  · cases h
  · split at h
    · cases h
    · rw [Grammar.ofDecoded_eq] at h
      split at h
      · exact ofHeader_ne_malformed _ _ _ _ _ h
      · cases h
      · cases h

namespace Reader

variable {t : FileTree} {r r' : Reader}

theorem onGrammar_ne_malformed {text : List Char} {f : Failure}
    (h : r.onGrammar t text = (r', some f)) (descriptor : Path) (fault : Markup.Fault) :
    f ≠ .malformedDescriptor descriptor fault := by
  rw [onGrammar_eq] at h
  split at h
  · cases h
  · rcases recordReference_fails h with ⟨hthere, -⟩ | ⟨-, -, hread, -⟩
    · obtain ⟨cause, -, -, rfl⟩ := isThere_eq_error_iff.1 hthere
      nofun
    · exact read_ne_malformed hread descriptor fault

theorem onExampleFiles_ne_malformed {text : List Char} {f : Failure}
    (h : r.onExampleFiles t text = (r', some f)) (descriptor : Path) (fault : Markup.Fault) :
    f ≠ .malformedDescriptor descriptor fault := by
  have hexamples : r.examplesIn t text = .error f := by
    unfold onExampleFiles at h
    split at h
    · cases h
      assumption
    · cases h
  rcases examplesIn_fails hexamples with rfl | rfl | rfl <;> nofun

theorem handle_ne_malformed {e : Element} {f : Failure} (h : r.handle t e = (r', some f))
    (descriptor : Path) (fault : Markup.Fault) : f ≠ .malformedDescriptor descriptor fault := by
  unfold handle at h
  split at h
  · rename_i field _
    cases field with
    | grammar => exact onGrammar_ne_malformed h descriptor fault
    | exampleFiles => exact onExampleFiles_ne_malformed h descriptor fault
    | artifact | longName | entryPoint | caseInsensitiveType => cases h
  · cases h

/-! ## Elements in parts -/

theorem handleAll_append (es es' : List Element) :
    r.handleAll t (es ++ es') = match r.handleAll t es with
      | (last, some f) => (last, some f)
      | (last, none) => last.handleAll t es' := by
  induction es generalizing r with
  | nil => rfl
  | cons e es ih =>
    rw [List.cons_append, handleAll, handleAll]
    rcases r.handle t e with ⟨next, _ | f⟩
    · exact ih
    · rfl

/-- Behind the first element that cannot be handled no other is. -/
theorem handleAll_fails {es : List Element} {last : Reader} {f : Failure}
    (h : r.handleAll t es = (last, some f)) : ∃ done e rest mid, es = done ++ e :: rest ∧
      r.handleAll t done = (mid, none) ∧ mid.handle t e = (last, some f) := by
  induction es generalizing r with
  | nil => cases h
  | cons e es ih =>
    rw [handleAll] at h
    rcases hr : r.handle t e with ⟨next, _ | g⟩ <;> rw [hr] at h
    · obtain ⟨done, e', rest, mid, rfl, hdone, he'⟩ := ih h
      refine ⟨e :: done, e', rest, mid, rfl, ?_, he'⟩
      rw [handleAll, hr]
      exact hdone
    · cases h
      exact ⟨[], e, es, r, rfl, rfl, hr⟩

/-- Where all elements can be handled, handling them is a fold. -/
theorem handleAll_returns {es : List Element} {last : Reader}
    (h : r.handleAll t es = (last, none)) : last = es.foldl (fun r e => (r.handle t e).1) r := by
  induction es generalizing r with
  | nil =>
    cases h
    rfl
  | cons e es ih =>
    rw [handleAll] at h
    rcases hr : r.handle t e with ⟨next, _ | g⟩ <;> rw [hr] at h
    · rw [List.foldl_cons, hr]
      exact ih h
    · cases h

/-! ## Chunks -/

/-- Reading in chunks, behind the bytes that `d` has read. The elements that end in a chunk are
handled before what shows to be wrong in it is told. The bytes of `late` are read with the end of
the document, and the elements that end in them are handled only if nothing is wrong there. -/
def readChunks (t : FileTree) (late : List UInt8) (r : Reader) (d : DocumentReader) :
    List (List UInt8) → Reader × Except Failure Reading
  | [] =>
    let last := (late.foldl DocumentReader.step d).finish
    match last.stop with
    | some stop => (r, .error (r.stopped stop))
    | none =>
      match r.handleAll t (last.elements.drop d.scanner.elements.length) with
      | (r, some f) => (r, .error f)
      | (r, none) => (r.count, r.reading)
  | chunk :: chunks =>
    let next := chunk.foldl DocumentReader.step d
    match r.handleAll t (next.scanner.elements.drop d.scanner.elements.length) with
    | (r, some f) => (r, .error f)
    | (r, none) =>
      match next.stop with
      | some stop => (r, .error (r.stopped stop))
      | none => readChunks t late r next chunks

theorem readDocument_append (es es' : List Element) (stop : Option Stop) :
    r.readDocument t ⟨es ++ es', stop⟩ = match r.handleAll t es with
      | (mid, some f) => (mid, .error f)
      | (mid, none) => mid.readDocument t ⟨es', stop⟩ := by
  rw [readDocument, handleAll_append]
  rcases r.handleAll t es with ⟨mid, _ | f⟩ <;> rfl

theorem readChunks_cons (late before chunk : List UInt8) (chunks : List (List UInt8)) :
    r.readChunks t late (behind before) (chunk :: chunks) =
      match r.handleAll t ((endedIn (before ++ chunk)).drop (endedIn before).length) with
      | (mid, some f) => (mid, .error f)
      | (mid, none) =>
        match wrongIn (before ++ chunk) with
        | some stop => (mid, .error (mid.stopped stop))
        | none => mid.readChunks t late (behind (before ++ chunk)) chunks := by
  rw [readChunks, ← Markup.behind_append]
  rfl

theorem elements_split (before chunk rest late : List UInt8) :
    (Document.inParts (before ++ (chunk ++ rest)) late).elements.drop (endedIn before).length =
      (endedIn (before ++ chunk)).drop (endedIn before).length ++
        (Document.inParts (before ++ chunk ++ rest) late).elements.drop
          (endedIn (before ++ chunk)).length := by
  obtain ⟨later, hlater⟩ := Document.endedIn_prefix_inParts (before ++ chunk) rest late
  have hle := (Markup.endedIn_prefix before chunk).length_le
  rw [← List.append_assoc, ← hlater, List.drop_append_of_le_length hle, List.drop_left]

/-- **Reading goes on in chunks** as it does in one go. -/
theorem readChunks_behind (late before : List UInt8) (chunks : List (List UInt8)) :
    r.readChunks t late (behind before) chunks =
      let d := Document.inParts (before ++ chunks.flatten) late
      r.readDocument t ⟨d.elements.drop (endedIn before).length, d.stop⟩ := by
  induction chunks generalizing before r with
  | nil =>
    have hfinish : (late.foldl DocumentReader.step (behind before)).finish =
        Document.inFull (before ++ late) := by
      rw [← Markup.behind_append]
      rfl
    rw [List.flatten_nil, List.append_nil, readChunks, hfinish]
    dsimp only
    cases hstop : (Document.inFull (before ++ late)).stop with
    | some stop =>
      rw [Document.inParts_of_stop hstop]
      dsimp only
      rw [List.drop_length]
      rfl
    | none =>
      rw [Document.inParts_of_stop_eq_none hstop, Document.elements_inFull]
      rfl
  | cons chunk chunks ih =>
    rw [readChunks_cons, List.flatten_cons]
    dsimp only
    rw [elements_split, readDocument_append]
    rcases r.handleAll t ((endedIn (before ++ chunk)).drop (endedIn before).length) with
      ⟨mid, _ | f⟩
    · dsimp only
      cases hwrong : wrongIn (before ++ chunk) with
      | none => rw [ih, List.append_assoc]
      | some stop =>
        -- Nothing that stands behind the chunk is handled.
        obtain ⟨hended, -⟩ := Markup.behind_of_wrong hwrong chunks.flatten
        obtain ⟨-, hstop⟩ := Markup.behind_of_wrong hwrong (chunks.flatten ++ late)
        rw [← List.append_assoc] at hstop
        rw [← List.append_assoc, Document.inParts_of_stop (Document.stop_inFull hstop), hended]
        dsimp only
        rw [List.drop_length]
        rfl
    · rfl

theorem read_eq_of_content {bytes : List UInt8} (hb : t.contentOf r.path.toString = .ok bytes) :
    r.read t = r.readDocument t (Document.ofBytes bytes) := by
  rw [read, hb]

/-- **Where the chunks end does not matter.** -/
theorem readChunks_flatten {bytes : List UInt8} (hb : t.contentOf r.path.toString = .ok bytes)
    (hrefusal : Document.refusal? bytes = none) {chunks : List (List UInt8)}
    (hc : chunks.flatten = Document.readAtOnce bytes) :
    r.readChunks t (Document.putOff bytes) .first chunks = r.read t := by
  have h := readChunks_behind (t := t) (r := r) (Document.putOff bytes) [] chunks
  rw [List.nil_append, hc, ← Document.handedOver_eq] at h
  rw [read_eq_of_content hb, Document.ofBytes_of_not_refused hrefusal]
  exact h

/-! ## What is handled -/

theorem settings_handleAll (es : List Element) : (r.handleAll t es).1.settings = r.settings := by
  rw [handleAll_eq_handleFields]
  exact settings_handleFields t r _

theorem read_eq_malformed_iff {bytes : List UInt8}
    (hb : t.contentOf r.path.toString = .ok bytes) {last : Reader} {descriptor : Path}
    {fault : Markup.Fault} :
    r.read t = (last, .error (.malformedDescriptor descriptor fault)) ↔
      r.handleAll t (Document.ofBytes bytes).elements = (last, none) ∧
        (Document.ofBytes bytes).stop = some (.fault fault) ∧ descriptor = r.path := by
  have hpath : (r.handleAll t (Document.ofBytes bytes).elements).1.path = r.path :=
    congrArg Prod.fst (settings_handleAll _)
  rw [read_eq_of_content hb, readDocument]
  rcases hr : r.handleAll t (Document.ofBytes bytes).elements with ⟨mid, _ | f⟩
  · rw [hr] at hpath
    dsimp only at hpath ⊢
    cases (Document.ofBytes bytes).stop with
    | none =>
      have hreading : mid.reading ≠ .error (.malformedDescriptor descriptor fault) := by
        intro h
        unfold reading Draft.build at h
        split at h
        · split at h <;> cases h
        · cases h
      simp [hreading]
    | some stop =>
      cases stop with
      | fault f =>
        simp only [stopped, hpath, Prod.mk.injEq, Except.error.injEq,
          Failure.malformedDescriptor.injEq, Option.some.injEq, Stop.fault.injEq]
        grind
      | codec f => simp [stopped]
      | wideEncoding => simp [stopped]
  · obtain ⟨done, e, rest, mid', -, -, he⟩ := handleAll_fails hr
    have hne := handle_ne_malformed he descriptor fault
    simp [hne]

theorem read_returns {bytes : List UInt8} (hb : t.contentOf r.path.toString = .ok bytes)
    {last : Reader} {reading : Reading} (h : r.read t = (last, .ok reading)) :
    (Document.ofBytes bytes).stop = none ∧
      ∃ done, r.handleAll t (Document.ofBytes bytes).elements = (done, none) ∧
        last = done.count := by
  obtain ⟨bytes', hb', done, hdone, hstop, hlast, -⟩ := read_ok h
  obtain rfl : bytes' = bytes := Except.ok.inj (hb'.symm.trans hb)
  exact ⟨hstop, done, hdone, hlast⟩

theorem ofBytes_of_wrong {bytes : List UInt8} (hrefusal : Document.refusal? bytes = none)
    {stop : Stop} (h : wrongIn (Document.readAtOnce bytes) = some stop) :
    (Document.inFull bytes).stop = some stop ∧ ∃ before b after,
      Document.readAtOnce bytes = before ++ b :: after ∧ wrongIn before = none ∧
        wrongIn (before ++ [b]) = some stop ∧
        (Document.ofBytes bytes).elements = endedIn (before ++ [b]) := by
  obtain ⟨before, b, after, hbytes, hnone, hsome⟩ := Markup.exists_first_wrong h
  obtain ⟨-, hwrong⟩ := Markup.behind_of_wrong h (Document.putOff bytes)
  have hstop := Document.stop_inFull hwrong
  refine ⟨by rwa [Document.readAtOnce_append_putOff] at hstop, before, b, after, hbytes, hnone,
    hsome, ?_⟩
  obtain ⟨hended, -⟩ := Markup.behind_of_wrong hsome after
  rw [List.append_assoc, List.singleton_append] at hended
  rw [Document.ofBytes_of_stop hrefusal (by rwa [Document.readAtOnce_append_putOff] at hstop),
    hbytes]
  exact hended

end Reader

end

section
open scoped Platform

namespace Reader

/-- A descriptor that breaks off in a reference, behind an element in another that is open. -/
def broken : List UInt8 := Text.utf8Bytes
  "<p><grammarName>a</grammarName><x><entryPoint>b</entryPoint><include>c</p>".toList

end Reader

end

end GrammarProject.Descriptor
