import PodIsolation.SortedMap

/-!
# Look-ups in sorted maps

## Maps are determined by their look-ups

The entries of a map are the pairs that look-ups yield, each once, so two maps
with the same look-ups are equal.
-/

namespace PodIsolation

namespace SortedMap

theorem lookup_eq_none_of_lt {entries : List (String × V)} {key : String}
    (h : forall entry, entry ∈ entries -> key < entry.1) :
    entries.lookup key = none := by
  rw [List.lookup_eq_none_iff]
  intro entry hentry
  have hne : key ≠ entry.1 := by
    intro heq
    exact String.lt_irrefl entry.1 (heq ▸ h entry hentry)
  simpa using hne

theorem lookup_eq_none_of_lt_head {entry : String × V} {rest : List (String × V)}
    (hsorted : (entry :: rest).Pairwise (fun a b => a.1 < b.1)) {key : String}
    (h : key < entry.1) : (entry :: rest).lookup key = none := by
  apply lookup_eq_none_of_lt
  intro other hother
  rcases List.mem_cons.mp hother with rfl | hrest
  · exact h
  · exact String.lt_trans h ((List.pairwise_cons.mp hsorted).left other hrest)

theorem entries_ext {xs ys : List (String × V)}
    (hxs : xs.Pairwise (fun a b => a.1 < b.1)) (hys : ys.Pairwise (fun a b => a.1 < b.1))
    (h : forall key, xs.lookup key = ys.lookup key) : xs = ys := by
  induction xs generalizing ys with
  | nil =>
      cases ys with
      | nil => rfl
      | cons y ys =>
          rcases y with ⟨k, v⟩
          have hy := h k
          simp at hy
  | cons x xs ih =>
      rcases x with ⟨k, v⟩
      cases ys with
      | nil =>
          have hx := h k
          simp at hx
      | cons y ys =>
          rcases y with ⟨l, w⟩
          obtain ⟨hxhead, hxrest⟩ := List.pairwise_cons.mp hxs
          obtain ⟨hyhead, hyrest⟩ := List.pairwise_cons.mp hys
          -- The smaller of two different heads would be missing in the other list.
          have hkey : k = l := by
            rcases Std.lt_trichotomy k l with hlt | heq | hgt
            · have hx := h k
              rw [lookup_eq_none_of_lt_head hys hlt] at hx
              simp at hx
            · exact heq
            · have hy := h l
              rw [lookup_eq_none_of_lt_head hxs hgt] at hy
              simp at hy
          subst hkey
          have hvalue : v = w := by
            have hx := h k
            simpa [List.lookup_cons] using hx
          have hrest : xs = ys := by
            apply ih hxrest hyrest
            intro key
            by_cases hk : key = k
            · rw [hk, lookup_eq_none_of_lt hxhead, lookup_eq_none_of_lt hyhead]
            · have hlookup := h key
              simpa [List.lookup_cons, beq_false_of_ne hk] using hlookup
          rw [hrest, hvalue]

theorem ext {m n : SortedMap V} (h : forall key, m.get? key = n.get? key) : m = n := by
  rcases m with ⟨xs, hxs⟩
  rcases n with ⟨ys, hys⟩
  have hentries : xs = ys := entries_ext hxs hys h
  subst hentries
  rfl

/-- The entries of a map are what look-ups yield. -/
theorem mem_entries {m : SortedMap V} {key : String} {value : V} :
    (key, value) ∈ m.entries <-> m.get? key = some value := by
  rcases m with ⟨entries, hsorted⟩
  unfold get?
  simp only
  induction entries with
  | nil => simp
  | cons head rest ih =>
      rcases head with ⟨k, v⟩
      obtain ⟨hhead, hrest⟩ := List.pairwise_cons.mp hsorted
      have ih := ih hrest
      by_cases hkey : key = k
      · have hmissing : (k, value) ∉ rest := by
          intro hmem
          exact String.lt_irrefl k (hhead (k, value) hmem)
        simp [hkey, hmissing, eq_comm]
      · simp [List.lookup_cons, beq_false_of_ne hkey, hkey, ih]

theorem entries_nodup (m : SortedMap V) : m.entries.Nodup := by
  apply m.sorted.imp
  intro a b hlt heq
  rw [heq] at hlt
  exact String.lt_irrefl b.1 hlt

/-- A map with a value is not empty. -/
theorem entries_ne_nil {m : SortedMap V} {key : String} {value : V}
    (h : m.get? key = some value) : m.entries ≠ [] := by
  intro hnil
  have hmem := mem_entries.mpr h
  rw [hnil] at hmem
  cases hmem

/-!
## Look-up after filtering
-/

theorem get?_filter (m : SortedMap V) (keep : String -> V -> Bool) (key : String) :
    (m.filter keep).get? key = (m.get? key).filter (keep key) := by
  apply Option.ext
  intro value
  rw [← mem_entries, Option.filter_eq_some_iff]
  simp [filter, mem_entries]

theorem get?_erase (m : SortedMap V) (key k : String) :
    (m.erase key).get? k = if k = key then none else m.get? k := by
  unfold erase
  rw [get?_filter]
  by_cases hk : k = key
  · cases hvalue : m.get? k <;> simp [hk]
  · cases hvalue : m.get? k <;> simp [hk]

end SortedMap

end PodIsolation
