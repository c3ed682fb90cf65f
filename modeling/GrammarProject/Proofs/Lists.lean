import Mathlib.Data.List.Basic
import Mathlib.Data.List.Nodup

/-!
# Lists

Lists without repetition (`nodup_eraseDups`, `nodup_map_flatMap`), what computations give that do
not fail (`bind_eq_ok`, `mem_of_mapM`, `mapM_eq_map`), and lists whose members are seen in view of
those before them (`eachBehind`).
-/

namespace GrammarProject

section
variable {α β γ : Type}

theorem nodup_eraseDups [BEq α] [LawfulBEq α] (l : List α) : l.eraseDups.Nodup := by
  match l with
  | [] => exact List.nodup_nil
  | a :: l =>
    rw [List.eraseDups_cons]
    refine List.nodup_cons.2 ⟨fun h => ?_, nodup_eraseDups _⟩
    simpa using List.mem_eraseDups.1 h
  termination_by l.length
  decreasing_by exact Nat.lt_succ_of_le (List.length_filter_le _ _)

/-- No value is met twice in what the members of a list give, if each value there shows from which
member it comes. -/
theorem nodup_map_flatMap {f : α → β} {g : α → List α} {origin : β → β} {l : List α}
    (hl : (l.map f).Nodup) (hg : ∀ a ∈ l, ((g a).map f).Nodup)
    (horigin : ∀ a ∈ l, ∀ b ∈ g a, origin (f b) = f a) : ((l.flatMap g).map f).Nodup := by
  rw [List.map_flatMap, List.nodup_flatMap]
  refine ⟨hg, (List.pairwise_map.1 hl).imp_of_mem fun {a a'} ha ha' hne => ?_⟩
  refine List.disjoint_left.2 fun x hx hx' => hne ?_
  obtain ⟨b, hb, rfl⟩ := List.mem_map.1 hx
  obtain ⟨b', hb', heq⟩ := List.mem_map.1 hx'
  rw [← horigin a ha b hb, ← heq, horigin a' ha' b' hb']

theorem bind_eq_ok {ε : Type} {x : Except ε α} {f : α → Except ε β} {b : β} :
    x >>= f = .ok b ↔ ∃ a, x = .ok a ∧ f a = .ok b := by
  constructor
  · intro h
    cases x with
    | error e => cases h
    | ok a => exact ⟨a, rfl, h⟩
  · rintro ⟨a, rfl, h⟩
    exact h

theorem ok_of_toOption {ε : Type} {x : Except ε α} {a : α} (h : x.toOption = some a) :
    x = .ok a := by
  cases x with
  | error e => cases h
  | ok a' => exact congrArg Except.ok (Option.some.inj h)

theorem exists_ok_of_toOption {ε : Type} {x : Except ε α} {f : α → β} {b : β}
    (h : x.toOption.map f = some b) : ∃ a, x = .ok a ∧ f a = b := by
  obtain ⟨a, ha, hb⟩ := Option.map_eq_some_iff.1 h
  exact ⟨a, ok_of_toOption ha, hb⟩

theorem mem_of_mapM {ε : Type} {f : α → Except ε β} {l : List α} {l' : List β}
    (h : l.mapM f = .ok l') {b : β} (hb : b ∈ l') : ∃ a ∈ l, f a = .ok b := by
  induction l generalizing l' with
  | nil =>
    cases h
    cases hb
  | cons a l ih =>
    rw [List.mapM_cons] at h
    obtain ⟨b', ha, h⟩ := bind_eq_ok.1 h
    obtain ⟨bs, hl, h⟩ := bind_eq_ok.1 h
    cases h
    rcases List.mem_cons.1 hb with rfl | hb
    · exact ⟨a, .head _, ha⟩
    · obtain ⟨a', ha', hb⟩ := ih hl hb
      exact ⟨a', .tail _ ha', hb⟩

theorem mapM_eq_map {ε : Type} {f : α → Except ε β} {g : α → β} {l : List α}
    (h : ∀ a ∈ l, f a = .ok (g a)) : l.mapM f = .ok (l.map g) := by
  induction l with
  | nil => rfl
  | cons a l ih =>
    obtain ⟨ha, hl⟩ := List.forall_mem_cons.1 h
    rw [List.mapM_cons, ha, ih hl]
    rfl

/-- What the members of a list give, each in view of those before it. -/
def eachBehind (f : List α → α → Option β) (l : List α) : List β :=
  l.zipIdx.filterMap fun x => f (l.take x.2) x.1

theorem eachBehind_concat (f : List α → α → Option β) (l : List α) (a : α) :
    eachBehind f (l ++ [a]) = eachBehind f l ++ (f l a).toList := by
  have h : ∀ x ∈ l.zipIdx, f ((l ++ [a]).take x.2) x.1 = f (l.take x.2) x.1 := by
    intro x hx
    have := List.snd_lt_of_mem_zipIdx hx
    rw [List.take_append_of_le_length (by omega)]
  have ha : ([a].zipIdx (0 + l.length)).filterMap (fun x => f ((l ++ [a]).take x.2) x.1) =
      (f l a).toList := by
    cases hf : f l a <;> simp [hf]
  unfold eachBehind
  rw [List.zipIdx_append, List.filterMap_append, List.filterMap_congr h, ha]

theorem map_eachBehind (f : List α → α → Option β) (g : β → γ) (l : List α) :
    (eachBehind f l).map g = eachBehind (fun before a => (f before a).map g) l :=
  List.map_filterMap

theorem filterMap_cons_toList (f : α → Option β) (a : α) (l : List α) :
    (f a).toList ++ l.filterMap f = (a :: l).filterMap f := by
  cases h : f a <;> simp [h]

end

end GrammarProject
