import PodIsolation.Address.Cidr

/-!
# Texts of addresses

## Reading what was printed

The text of an address or of a block is read back as the same address or block,
in the plain form as well as next to a prefix length.  So the packet filter and
whoever inspects its rules agree on the hosts that a rule names, and two blocks
with one text are equal.
-/

namespace PodIsolation

/-!
# Pieces of a text
-/

theorem mem_of_mem_intercalate {separator c : Char} {pieces : List (List Char)}
    (h : c ∈ [separator].intercalate pieces) :
    c = separator ∨ exists piece, piece ∈ pieces ∧ c ∈ piece := by
  induction pieces with
  | nil => cases h
  | cons piece rest ih =>
      cases rest with
      | nil => exact Or.inr ⟨piece, List.mem_singleton_self piece, by simpa using h⟩
      | cons next rest =>
          simp only [List.intercalate_cons_cons, List.mem_append, List.mem_singleton] at h
          rcases h with (h | h) | h
          · exact Or.inr ⟨piece, List.mem_cons_self, h⟩
          · exact Or.inl h
          · rcases ih h with h | ⟨found, hfound, h⟩
            · exact Or.inl h
            · exact Or.inr ⟨found, List.mem_cons_of_mem _ hfound, h⟩

theorem exists_of_mapM_eq_some {f : alpha -> Option beta} {items : List alpha}
    {results : List beta} (h : items.mapM f = some results) :
    forall a, a ∈ items -> exists b, f a = some b := by
  induction items generalizing results with
  | nil =>
      intro a ha
      cases ha
  | cons head rest ih =>
      intro a ha
      cases hhead : f head with
      | none => simp [hhead] at h
      | some b =>
          cases hrest : rest.mapM f with
          | none => simp [hhead, hrest] at h
          | some bs =>
              rcases List.mem_cons.mp ha with rfl | ha
              · exact ⟨b, hhead⟩
              · exact ih hrest a ha

/-!
# Numerals
-/

namespace Numeral

theorem isDigit_of_mem_toDigits {n : Nat} {c : Char}
    (hc : c ∈ Nat.toDigits 10 n) : c.isDigit = true :=
  Nat.isDigit_of_mem_toDigits (b := 10) (by decide) (by decide) hc

theorem decimalBelow?_toDigits {bound n : Nat} (h : n < bound) :
    decimalBelow? bound (Nat.toDigits 10 n) = some n := by
  simp [decimalBelow?, h]

theorem isDigit_of_decimal? {digits : List Char} {n : Nat}
    (h : decimal? digits = some n) :
    forall c, c ∈ digits -> c.isDigit = true := by
  unfold decimal? at h
  split at h
  · rename_i hdecimal
    simp only [isDecimal, Bool.and_eq_true, List.all_eq_true] at hdecimal
    exact hdecimal.right
  · cases h

end Numeral

/-!
# Dotted text
-/

namespace IPv4

theorem length_octetText_le (n : UInt8) : (octetText n).length ≤ 3 := by
  have hn : n.toNat < 10 ^ 3 := Nat.lt_trans n.toNat_lt (by decide)
  exact (Nat.length_toDigits_le_iff (by decide) (by decide)).mpr hn

theorem isPadded_octetText (n : UInt8) : isPadded (octetText n) = false := by
  have hn : n.toNat < 256 := n.toNat_lt
  have hall : forall m, m < 256 -> isPadded (Nat.toDigits 10 m) = false := by
    decide +kernel
  exact hall n.toNat hn

theorem octet?_octetText (form : AddressForm) (n : UInt8) :
    octet? form (octetText n) = some n := by
  have hvalue : Numeral.decimalBelow? 256 (octetText n) = some n.toNat :=
    Numeral.decimalBelow?_toDigits n.toNat_lt
  simp [octet?, length_octetText_le, isPadded_octetText, hvalue]

theorem separator_not_mem_octetText {c : Char} (hc : c.isDigit = false) (n : UInt8) :
    c ∉ octetText n := by
  intro hmem
  have hdigit := Numeral.isDigit_of_mem_toDigits hmem
  rw [hc] at hdigit
  cases hdigit

theorem splitOn_chars (address : IPv4) :
    address.chars.splitOn '.' =
      [octetText address.a, octetText address.b, octetText address.c,
        octetText address.d] := by
  apply List.splitOn_intercalate
  · intro piece hpiece
    simp only [List.mem_cons, List.not_mem_nil, or_false] at hpiece
    rcases hpiece with rfl | rfl | rfl | rfl <;>
      exact separator_not_mem_octetText (by decide) _
  · simp

theorem ofChars?_chars (form : AddressForm) (address : IPv4) :
    ofChars? form address.chars = some address := by
  simp [ofChars?, splitOn_chars, octet?_octetText]

/-- The text of an address has digits and dots only. -/
theorem mem_chars {address : IPv4} {c : Char} (hc : c ∈ address.chars) :
    c.isDigit = true ∨ c = '.' := by
  simp only [chars, List.intercalate_cons_cons, List.mem_append, List.intercalate_singleton,
    List.mem_singleton] at hc
  rcases hc with (hc | hc) | (hc | hc) | (hc | hc) | hc
  all_goals first
    | exact Or.inl (Numeral.isDigit_of_mem_toDigits hc)
    | exact Or.inr hc

theorem isDigit_of_octet? {form : AddressForm} {digits : List Char} {n : UInt8}
    (h : octet? form digits = some n) {c : Char} (hc : c ∈ digits) :
    c.isDigit = true := by
  unfold octet? at h
  split at h
  · simp only [Option.map_eq_some_iff, Numeral.decimalBelow?, Option.filter_eq_some_iff] at h
    rcases h with ⟨m, ⟨hm, _⟩, _⟩
    exact Numeral.isDigit_of_decimal? hm c hc
  · cases h

/-- Text that reads as a dotted address has digits and dots only. -/
theorem mem_of_ofChars? {form : AddressForm} {text : List Char} {address : IPv4}
    (h : ofChars? form text = some address) {c : Char} (hc : c ∈ text) :
    c.isDigit = true ∨ c = '.' := by
  unfold ofChars? at h
  split at h
  · rename_i hpieces
    have hjoined : c ∈ ['.'].intercalate (text.splitOn '.') := by
      simpa using hc
    rcases mem_of_mem_intercalate hjoined with hc | ⟨piece, hpiece, hc⟩
    · exact Or.inr hc
    · rcases exists_of_mapM_eq_some hpieces piece hpiece with ⟨n, hn⟩
      exact Or.inl (isDigit_of_octet? hn hc)
  · cases h

end IPv4

/-!
# Colon text

The groups of an address are read back from the pieces between its colons.
-/

namespace Numeral

/-- The value of hexadecimal digits, the first digit first. -/
theorem mapM_hexDigit?_toDigits (n : Nat) :
    exists values, (Nat.toDigits 16 n).mapM hexDigit? = some values ∧
      values.foldl (fun n d => n * 16 + d) 0 = n := by
  have hdigit : forall d, d < 16 -> hexDigit? (Nat.digitChar d) = some d := by decide
  induction n using Nat.strongRecOn with
  | ind n ih =>
      rw [Nat.toDigits_eq_if (by decide)]
      by_cases hn : n < 16
      · exact ⟨[n], by simp [hn, hdigit n hn], by simp⟩
      · rcases ih (n / 16) (by omega) with ⟨values, hvalues, hsum⟩
        refine ⟨values ++ [n % 16], ?_, ?_⟩
        · simp [hn, hvalues, hdigit (n % 16) (by omega)]
        · simp only [List.foldl_append, hsum, List.foldl_cons, List.foldl_nil]
          omega

theorem hexadecimal?_toDigits (n : Nat) :
    hexadecimal? (Nat.toDigits 16 n) = some n := by
  rcases mapM_hexDigit?_toDigits n with ⟨values, hvalues, hsum⟩
  simp [hexadecimal?, hvalues, hsum, Nat.toDigits_ne_nil]

theorem hexDigit?_of_isDigit {c : Char} (h : c.isDigit = true) : hexDigit? c ≠ none := by
  simp only [Char.isDigit, Bool.and_eq_true, decide_eq_true_eq] at h
  unfold hexDigit?
  rw [if_pos ⟨Char.le_def.mpr h.left, Char.le_def.mpr h.right⟩]
  exact Option.some_ne_none _

theorem not_mem_hexDigits {n : Nat} {c : Char} (hc : hexDigit? c = none) :
    c ∉ Nat.toDigits 16 n := by
  intro hmem
  rcases mapM_hexDigit?_toDigits n with ⟨values, hvalues, _⟩
  rcases exists_of_mapM_eq_some hvalues c hmem with ⟨d, hd⟩
  rw [hc] at hd
  cases hd

end Numeral

namespace IPv6

theorem group?_groupText (g : UInt16) : group? (groupText g) = some g := by
  have hlength : (groupText g).length ≤ 4 :=
    (Nat.length_toDigits_le_iff (by decide) (by decide)).mpr g.toNat_lt
  have hvalue : Numeral.hexadecimal? (groupText g) = some g.toNat :=
    Numeral.hexadecimal?_toDigits g.toNat
  simp [group?, hlength, hvalue]

theorem groupText_ne_nil (g : UInt16) : groupText g ≠ [] :=
  Nat.toDigits_ne_nil

theorem colon_not_mem_groupText (g : UInt16) : ':' ∉ groupText g :=
  Numeral.not_mem_hexDigits (by decide)

theorem groupsText_cons_cons (g h : UInt16) (rest : List UInt16) :
    groupsText (g :: h :: rest) = groupText g ++ ':' :: groupsText (h :: rest) := by
  simp [groupsText]

/-- The text of one or more groups begins with a digit. -/
theorem groupsText_cons_head (g : UInt16) (rest : List UInt16) :
    exists c tail, groupsText (g :: rest) = c :: tail ∧ c ≠ ':' := by
  cases hg : groupText g with
  | nil => exact absurd hg (groupText_ne_nil g)
  | cons c tail =>
      have hc : c ≠ ':' := by
        intro h
        exact colon_not_mem_groupText g (by simp [hg, h])
      cases rest with
      | nil => exact ⟨c, tail, by simp [groupsText, hg], hc⟩
      | cons h rest =>
          exact ⟨c, tail ++ ':' :: groupsText (h :: rest),
            by simp [groupsText_cons_cons, hg], hc⟩

theorem readGroups_groupText (form : AddressForm) (atEnd : Bool)
    (groups : List UInt16) :
    readGroups form atEnd (groups.map groupText) = some groups := by
  induction groups with
  | nil => rfl
  | cons g rest ih => simp [readGroups, group?_groupText, ih]

theorem sideGroups?_groupsText (form : AddressForm) (atEnd : Bool)
    (groups : List UInt16) :
    sideGroups? form atEnd (groupsText groups) = some groups := by
  cases groups with
  | nil => rfl
  | cons g rest =>
      rcases groupsText_cons_head g rest with ⟨c, tail, htext, _⟩
      have hpieces : (groupsText (g :: rest)).splitOn ':' =
          (g :: rest).map groupText := by
        apply List.splitOn_intercalate
        · intro piece hpiece
          rcases List.mem_map.mp hpiece with ⟨h, _, rfl⟩
          exact colon_not_mem_groupText h
        · simp
      have hne : (groupsText (g :: rest)).isEmpty = false := by simp [htext]
      simp only [sideGroups?, hne, hpieces]
      exact readGroups_groupText form atEnd (g :: rest)

/-!
## The gap

The text before the gap neither holds a double colon nor ends with a colon, so
the first double colon is the gap.
-/

theorem splitGap_cons_of_ne {c : Char} (hc : c ≠ ':') (rest : List Char) :
    splitGap (c :: rest) =
      (splitGap rest).map fun sides => (c :: sides.1, sides.2) := by
  rw [splitGap]
  intro tail hcontra
  exact absurd hcontra hc

theorem splitGap_colon_cons_of_ne {c : Char} (hc : c ≠ ':') (rest : List Char) :
    splitGap (':' :: c :: rest) =
      (splitGap (c :: rest)).map fun sides => (':' :: sides.1, sides.2) := by
  rw [splitGap]
  intro tail _ hcontra
  injection hcontra with hcontra _
  exact hc hcontra

theorem splitGap_append {word : List Char} (hword : ':' ∉ word) (rest : List Char) :
    splitGap (word ++ rest) =
      (splitGap rest).map fun sides => (word ++ sides.1, sides.2) := by
  induction word with
  | nil => simp
  | cons c word ih =>
      simp only [List.mem_cons, not_or] at hword
      rw [List.cons_append, splitGap_cons_of_ne (Ne.symm hword.left), ih hword.right]
      simp [Function.comp_def]

theorem splitGap_groupsText (groups : List UInt16) :
    splitGap (groupsText groups) = none := by
  induction groups with
  | nil => rfl
  | cons g rest ih =>
      cases rest with
      | nil =>
          have hsplit := splitGap_append (colon_not_mem_groupText g) []
          simpa [groupsText, splitGap] using hsplit
      | cons h rest =>
          rcases groupsText_cons_head h rest with ⟨c, tail, htext, hc⟩
          rw [groupsText_cons_cons, splitGap_append (colon_not_mem_groupText g), htext,
            splitGap_colon_cons_of_ne hc, ← htext, ih]
          rfl

theorem splitGap_groupsText_gap (groups : List UInt16) (back : List Char) :
    splitGap (groupsText groups ++ ':' :: ':' :: back) = some (groupsText groups, back) := by
  induction groups with
  | nil => rfl
  | cons g rest ih =>
      cases rest with
      | nil =>
          have hsplit := splitGap_append (colon_not_mem_groupText g) (':' :: ':' :: back)
          simpa [groupsText, splitGap] using hsplit
      | cons h rest =>
          rcases groupsText_cons_head h rest with ⟨c, tail, htext, hc⟩
          rw [groupsText_cons_cons, List.append_assoc,
            splitGap_append (colon_not_mem_groupText g), htext, List.cons_append,
            List.cons_append, splitGap_colon_cons_of_ne hc, ← List.cons_append, ← htext, ih]
          rfl

/-!
## Runs of zero groups
-/

theorem take_zeroRun (groups : List UInt16) :
    groups.take (zeroRun groups) = List.replicate (zeroRun groups) 0 := by
  induction groups with
  | nil => rfl
  | cons g rest ih =>
      by_cases hg : g = 0
      · have hrun : zeroRun (g :: rest) = zeroRun rest + 1 := by
          simp [zeroRun, hg]
        rw [hrun, List.take_succ_cons, ih, List.replicate_succ, hg]
      · have hrun : zeroRun (g :: rest) = 0 := by
          simp [zeroRun, hg]
        simp [hrun]

theorem longestRun_le_zeroRun (groups : List UInt16) :
    (longestRun groups).2 ≤ zeroRun (groups.drop (longestRun groups).1) := by
  unfold longestRun
  apply List.foldlRecOn
    (motive := fun best : Nat × Nat => best.2 ≤ zeroRun (groups.drop best.1))
  · exact Nat.zero_le _
  · intro best hbest start _
    by_cases hlonger : best.2 < zeroRun (groups.drop start)
    · simp [hlonger]
    · simpa [hlonger] using hbest

/-- An address is what stands before its longest run, the run, and the rest. -/
theorem longestRun_split (groups : List UInt16) :
    groups = groups.take (longestRun groups).1 ++
      (List.replicate (longestRun groups).2 0 ++
        groups.drop ((longestRun groups).1 + (longestRun groups).2)) := by
  have hrun := longestRun_le_zeroRun groups
  have hzeros : (groups.drop (longestRun groups).1).take (longestRun groups).2 =
      List.replicate (longestRun groups).2 0 := by
    have htake := congrArg (List.take (longestRun groups).2)
      (take_zeroRun (groups.drop (longestRun groups).1))
    rwa [List.take_take, Nat.min_eq_left hrun, List.take_replicate,
      Nat.min_eq_left hrun] at htake
  rw [← hzeros, ← List.drop_drop, List.take_append_drop, List.take_append_drop]

/-!
## Reading what was printed
-/

/-- A group is put together from its two octets. -/
theorem join_octets (g : UInt16) :
    ((g >>> 8).toUInt8.toUInt16 <<< 8) ||| g.toUInt8.toUInt16 = g := by
  apply UInt16.toNat_inj.mp
  have hg : g.toNat < 2 ^ 16 := g.toNat_lt
  have hjoin : (g.toNat / 2 ^ 8) <<< 8 + g.toNat % 256 =
      (g.toNat / 2 ^ 8) <<< 8 ||| g.toNat % 256 :=
    Nat.shiftLeft_add_eq_or_of_lt (i := 8) (by omega) _
  have hhigh : (g.toNat >>> 8 % 256) <<< 8 % 65536 = (g.toNat / 2 ^ 8) <<< 8 := by
    rw [Nat.shiftRight_eq_div_pow, Nat.shiftLeft_eq, Nat.shiftLeft_eq]
    omega
  calc
    _ = (g.toNat >>> 8 % 256) <<< 8 % 65536 ||| g.toNat % 256 := by simp
    _ = (g.toNat / 2 ^ 8) <<< 8 + g.toNat % 256 := by rw [hhigh, hjoin]
    _ = g.toNat := by
      rw [Nat.shiftLeft_eq]
      omega

theorem groups_of_mapped? {address : IPv6} {v4 : IPv4}
    (h : address.mapped? = some v4) :
    address.groups = [0, 0, 0, 0, 0, 0xffff] ++ embeddedGroups v4 := by
  unfold mapped? at h
  split at h
  · rename_i high low hgroups
    injection h with h
    rw [hgroups, ← h]
    simp only [embeddedGroups, join_octets, List.cons_append, List.nil_append]
  · cases h

theorem ofGroups?_groups (address : IPv6) :
    ofGroups? address.groups = some address := by
  simp [ofGroups?, address.length_groups]

theorem readGroups_mapped (form : AddressForm) (v4 : IPv4) :
    sideGroups? form true ("ffff:".toList ++ v4.chars) =
      some (0xffff :: embeddedGroups v4) := by
  have hcolon : forall c, c ∈ v4.chars -> c ≠ ':' := by
    intro c hc h
    rcases IPv4.mem_chars hc with hdigit | hdot
    · rw [h] at hdigit
      cases hdigit
    · rw [h] at hdot
      cases hdot
  have hpieces : ("ffff:".toList ++ v4.chars).splitOn ':' =
      ["ffff".toList, v4.chars] := by
    have hword : ':' ∉ "ffff".toList := by decide
    have hsplit := List.splitOn_append_cons_self_of_not_mem hword v4.chars
    rw [List.splitOn_eq_singleton (fun h => hcolon ':' h rfl)] at hsplit
    exact hsplit
  have hdotted : group? v4.chars = none := by
    have hdot : '.' ∈ v4.chars := by simp [IPv4.chars]
    simp only [group?]
    split
    · simp only [Numeral.hexadecimal?]
      split
      · rfl
      · cases hvalues : v4.chars.mapM Numeral.hexDigit? with
        | none => rfl
        | some values =>
            rcases exists_of_mapM_eq_some hvalues '.' hdot with ⟨d, hd⟩
            cases hd
    · rfl
  have hffff : group? "ffff".toList = some 0xffff := by decide
  have hne : ("ffff:".toList ++ v4.chars).isEmpty = false := by simp
  simp only [sideGroups?, hne, hpieces, readGroups, hffff, hdotted]
  simp [IPv4.ofChars?_chars]

theorem ofChars?_gap (form : AddressForm) {front back : List UInt16} {side : List Char}
    {address : IPv6} (hback : sideGroups? form true side = some back)
    (hfew : front.length + back.length ≤ 7)
    (hgroups : address.groups =
      front ++ (List.replicate (8 - front.length - back.length) 0 ++ back)) :
    ofChars? form (groupsText front ++ ':' :: ':' :: side) = some address := by
  have haround : front.length + back.length ≤ aroundGap form := by
    cases form
    · exact hfew
    · exact Nat.le_succ_of_le hfew
  have hfront : front.length ≤ 7 := Nat.le_trans (Nat.le_add_right _ _) hfew
  simp only [ofChars?, splitGap_groupsText_gap, sideGroups?_groupsText, hback, hfront,
    haround, and_self, if_true, List.append_assoc]
  rw [← hgroups]
  exact ofGroups?_groups address

theorem ofChars?_chars (form : AddressForm) (address : IPv6) :
    ofChars? form address.chars = some address := by
  unfold chars
  cases hmapped : address.mapped? with
  | some v4 =>
      have hgroups := groups_of_mapped? hmapped
      have hread : ofChars? form
          (groupsText [] ++ ':' :: ':' :: ("ffff:".toList ++ v4.chars)) = some address := by
        apply ofChars?_gap form (readGroups_mapped form v4) (by simp [embeddedGroups])
        simpa [embeddedGroups, List.replicate_succ] using hgroups
      simpa [groupsText] using hread
  | none =>
      have hsplit := longestRun_split address.groups
      generalize longestRun address.groups = best at hsplit
      rcases best with ⟨start, run⟩
      by_cases hshort : run < 2
      · simp only [hshort, if_true, ofChars?, splitGap_groupsText, sideGroups?_groupsText,
          Option.bind_some]
        exact ofGroups?_groups address
      · have hlength := congrArg List.length hsplit
        simp only [List.length_append, List.length_replicate, address.length_groups] at hlength
        simp only [hshort, if_false, List.append_assoc, List.cons_append, List.nil_append]
        apply ofChars?_gap form (sideGroups?_groupsText form true _)
        · omega
        · rw [show 8 - (address.groups.take start).length -
            (address.groups.drop (start + run)).length = run by omega]
          exact hsplit

end IPv6

/-!
# Blocks
-/

namespace IPv4

theorem slash_not_mem_chars (address : IPv4) : '/' ∉ address.chars := by
  intro h
  rcases mem_chars h with hdigit | hdot
  · cases hdigit
  · cases hdot

end IPv4

namespace IPv6

theorem mem_groupsText {groups : List UInt16} {c : Char} (hc : c ∈ groupsText groups) :
    Numeral.hexDigit? c ≠ none ∨ c = ':' := by
  rcases mem_of_mem_intercalate hc with hc | ⟨piece, hpiece, hc⟩
  · exact Or.inr hc
  · rcases List.mem_map.mp hpiece with ⟨g, _, rfl⟩
    exact Or.inl fun hnone => Numeral.not_mem_hexDigits hnone hc

/-- The text of an address has hexadecimal digits, colons and dots only. -/
theorem mem_chars {address : IPv6} {c : Char} (hc : c ∈ address.chars) :
    Numeral.hexDigit? c ≠ none ∨ c = ':' ∨ c = '.' := by
  unfold chars at hc
  split at hc
  · rcases List.mem_append.mp hc with hc | hc
    · have hmark : "::ffff:".toList.all
          (fun d => (Numeral.hexDigit? d).isSome || d == ':') = true := by decide
      have hcolon := List.all_eq_true.mp hmark c hc
      simp only [Bool.or_eq_true, Option.isSome_iff_ne_none, beq_iff_eq] at hcolon
      exact hcolon.imp_right Or.inl
    · rcases IPv4.mem_chars hc with hdigit | hdot
      · exact Or.inl (Numeral.hexDigit?_of_isDigit hdigit)
      · exact Or.inr (Or.inr hdot)
  · simp only at hc
    split at hc
    · exact (mem_groupsText hc).imp_right Or.inl
    · simp only [List.mem_append, List.mem_cons, List.not_mem_nil, or_false] at hc
      rcases hc with (hc | hc | hc) | hc
      · exact (mem_groupsText hc).imp_right Or.inl
      · exact Or.inr (Or.inl hc)
      · exact Or.inr (Or.inl hc)
      · exact (mem_groupsText hc).imp_right Or.inl

theorem slash_not_mem_chars (address : IPv6) : '/' ∉ address.chars := by
  intro h
  rcases mem_chars h with hdigit | hcolon | hdot
  · exact hdigit rfl
  · cases hcolon
  · cases hdot

theorem colon_mem_chars (address : IPv6) : ':' ∈ address.chars := by
  unfold chars
  cases address.mapped? with
  | some v4 => simp
  | none =>
      rcases longestRun address.groups with ⟨start, run⟩
      by_cases hshort : run < 2
      · have hlength := address.length_groups
        rcases hgroups : address.groups with _ | ⟨g, _ | ⟨h, rest⟩⟩
        · simp [hgroups] at hlength
        · simp [hgroups] at hlength
        · simp [hshort, groupsText_cons_cons]
      · simp [hshort]

/-- Colon text is no dotted text. -/
theorem not_dotted (form : AddressForm) (address : IPv6) :
    IPv4.ofChars? form address.chars = none := by
  cases hdotted : IPv4.ofChars? form address.chars with
  | none => rfl
  | some v4 =>
      rcases IPv4.mem_of_ofChars? hdotted address.colon_mem_chars with hdigit | hdot
      · cases hdigit
      · cases hdot

end IPv6

namespace Cidr

theorem length?_toDigits {digits bound : Nat} (length : Fin bound)
    (hshort : (Nat.toDigits 10 length.val).length ≤ digits) :
    length? digits bound (Nat.toDigits 10 length.val) = some length := by
  simp [length?, hshort]

theorem splitOn_slash {address : List Char} (haddress : '/' ∉ address) (length : Nat) :
    (address ++ '/' :: Nat.toDigits 10 length).splitOn '/' =
      [address, Nat.toDigits 10 length] := by
  have hlength : '/' ∉ Nat.toDigits 10 length := by
    intro h
    have hdigit := Numeral.isDigit_of_mem_toDigits h
    cases hdigit
  rw [List.splitOn_append_cons_self_of_not_mem haddress, List.splitOn_eq_singleton hlength]

/-- Reading the text of a block yields the block. -/
@[simp] theorem ofText?_text (block : Cidr) : ofText? block.text = some block := by
  cases block with
  | v4 address length =>
      have htext : (text (.v4 address length)).toList =
          address.chars ++ '/' :: Nat.toDigits 10 length.val := by
        simp [text, IPv4.text]
      have hshort : (Nat.toDigits 10 length.val).length ≤ 2 :=
        (Nat.length_toDigits_le_iff (by decide) (by decide)).mpr (by omega)
      simp [ofText?, ofChars?, htext, splitOn_slash address.slash_not_mem_chars,
        IPv4.ofChars?_chars, length?_toDigits, hshort]
  | v6 address length =>
      have htext : (text (.v6 address length)).toList =
          address.chars ++ '/' :: Nat.toDigits 10 length.val := by
        simp [text, IPv6.text]
      have hshort : (Nat.toDigits 10 length.val).length ≤ 3 :=
        (Nat.length_toDigits_le_iff (by decide) (by decide)).mpr (by omega)
      simp [ofText?, ofChars?, htext, splitOn_slash address.slash_not_mem_chars,
        IPv6.not_dotted, IPv6.ofChars?_chars, length?_toDigits, hshort]

end Cidr

end PodIsolation
