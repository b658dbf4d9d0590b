import KubeSentry.GoLib.Text

/-!
# Cutting texts apart

`strings.Split` at a separator of one character, `strings.Cut`,
`strings.IndexByte` and a slice of a string, over character lists.

Go counts positions in bytes, and the functions here count characters.  Both
find the same piece of the text, since a separator is never a part of another
character.
-/

namespace GoLib

/-! ## Split -/

/-- `strings.Split`. -/
def split (s : String) (sep : Char) : List String :=
  (s.toList.splitOn sep).map String.ofList

theorem split_ne_nil (s : String) (sep : Char) : split s sep ≠ [] := by
  unfold split
  simp [List.splitOn_ne_nil]

/-- A separator ends a piece. -/
theorem split_append_sep (a b : String) (sep : Char) :
    split (a ++ String.singleton sep ++ b) sep = split a sep ++ split b sep := by
  have hlist : (a ++ String.singleton sep ++ b).toList = a.toList ++ sep :: b.toList := by simp
  have hsplit : (a.toList ++ sep :: b.toList).splitOn sep =
      a.toList.splitOn sep ++ b.toList.splitOn sep :=
    List.splitOnP_append_cons a.toList b.toList (beq_self_eq_true sep)
  unfold split
  rw [hlist, hsplit, List.map_append]

variable {sep c : Char} {xs : List Char}

theorem splitOn_append_of_not_mem (hxs : sep ∉ xs) (ys : List Char) :
    (xs ++ ys).splitOn sep = (ys.splitOn sep).modifyHead (xs ++ ·) := by
  induction xs with
  | nil =>
    show ys.splitOn sep = (ys.splitOn sep).modifyHead fun l => l
    cases ys.splitOn sep <;> rfl
  | cons x xs ih =>
    have hx : (x == sep) = false := by
      simp only [List.mem_cons, not_or] at hxs
      simpa using fun h => hxs.1 h.symm
    have htail := ih fun h => hxs (List.mem_cons_of_mem x h)
    unfold List.splitOn at htail ⊢
    rw [List.cons_append, List.splitOnP_cons_eq_if_modifyHead, hx, htail]
    cases List.splitOnP (· == sep) ys <;> rfl

/-- A text without the separator lengthens the first piece. -/
theorem split_append_of_not_mem {a : String} (ha : sep ∉ a.toList) {b first : String}
    {rest : List String} (hb : split b sep = first :: rest) :
    split (a ++ b) sep = (a ++ first) :: rest := by
  unfold split at hb ⊢
  rw [String.toList_append, splitOn_append_of_not_mem ha]
  cases hpieces : b.toList.splitOn sep with
  | nil => exact absurd hpieces (List.splitOn_ne_nil sep _)
  | cons p ps =>
    rw [hpieces, List.map_cons] at hb
    obtain ⟨hfirst, hrest⟩ := List.cons.inj hb
    rw [List.modifyHead_cons, List.map_cons, hrest, ← hfirst]
    simp

/-- Pieces without the separator come back from their join. -/
theorem split_intercalate {pieces : List String} (hne : pieces ≠ [])
    (hpieces : ∀ p ∈ pieces, sep ∉ p.toList) :
    split ((String.singleton sep).intercalate pieces) sep = pieces := by
  have hlists : ∀ l ∈ pieces.map String.toList, sep ∉ l := by
    intro l hl
    obtain ⟨p, hp, hpl⟩ := List.mem_map.mp hl
    rw [← hpl]
    exact hpieces p hp
  have hne' : pieces.map String.toList ≠ [] := by simpa using hne
  unfold split
  rw [String.toList_intercalate, String.toList_singleton,
    List.splitOn_intercalate sep hlists hne', List.map_map]
  simp [Function.comp_def]

/-- The characters of a join come from the separator or from a piece. -/
theorem mem_toList_intercalate {sep : String} {pieces : List String}
    (h : c ∈ (sep.intercalate pieces).toList) : c ∈ sep.toList ∨ ∃ p ∈ pieces, c ∈ p.toList := by
  induction pieces with
  | nil => simp at h
  | cons p rest ih =>
    cases rest with
    | nil =>
      exact .inr ⟨p, List.mem_cons_self, h⟩
    | cons q rest =>
      rw [String.intercalate_cons_cons, String.toList_append, String.toList_append,
        List.mem_append, List.mem_append] at h
      rcases h with (hp | hsep) | hrest
      · exact .inr ⟨p, List.mem_cons_self, hp⟩
      · exact .inl hsep
      · rcases ih hrest with hsep | hpiece
        · exact .inl hsep
        · obtain ⟨p', hp', hc⟩ := hpiece
          exact .inr ⟨p', List.mem_cons_of_mem p hp', hc⟩

/-! ## Cut -/

/-- The first place where `sep` occurs, as what is before and what is after it. -/
def cutList (sep : List Char) : List Char → Option (List Char × List Char)
  | [] => if sep = [] then some ([], []) else none
  | c :: cs =>
    if sep.isPrefixOf (c :: cs) then some ([], (c :: cs).drop sep.length)
    else (cutList sep cs).map fun p => (c :: p.1, p.2)

/-- `strings.Cut`, with none where `sep` does not occur. -/
def cut (s sep : String) : Option (String × String) :=
  (cutList sep.toList s.toList).map fun p => (String.ofList p.1, String.ofList p.2)

/-- A text without the first character of the separator is passed over. -/
theorem cutList_append {sep : List Char} (hxs : c ∉ xs) (ys : List Char) :
    cutList (c :: sep) (xs ++ ys) = (cutList (c :: sep) ys).map fun p => (xs ++ p.1, p.2) := by
  induction xs with
  | nil => simp
  | cons x xs ih =>
    have hx : (c == x) = false := by
      simp only [List.mem_cons, not_or] at hxs
      simpa using hxs.1
    have htail := ih fun h => hxs (List.mem_cons_of_mem x h)
    rw [List.cons_append, cutList, htail]
    simp only [List.isPrefixOf, hx, Bool.false_and]
    simp [Option.map_map, Function.comp_def]

theorem cutList_self (sep ys : List Char) : cutList sep (sep ++ ys) = some ([], ys) := by
  cases hall : sep ++ ys with
  | nil =>
    obtain ⟨hsep, hys⟩ := List.append_eq_nil_iff.mp hall
    simp [cutList, hsep, hys]
  | cons c cs =>
    have hpre : sep.isPrefixOf (c :: cs) = true := by
      rw [← hall, List.isPrefixOf_iff_prefix]
      exact List.prefix_append sep ys
    rw [cutList, if_pos hpre, ← hall, List.drop_left]

theorem cutList_eq_none {sep : List Char} (hxs : c ∉ xs) : cutList (c :: sep) xs = none := by
  have h : cutList (c :: sep) (xs ++ []) = (cutList (c :: sep) []).map fun p => (xs ++ p.1, p.2) :=
    cutList_append hxs []
  rw [List.append_nil] at h
  rw [h]
  simp [cutList]

/-! ## Positions -/

/-- `strings.IndexByte` of an ASCII character, with none for -1. -/
def indexByte (s : String) (c : Char) : Option Nat :=
  s.toList.findIdx? fun x => x = c

/-- `s[lo:hi]`. -/
def slice (s : String) (lo hi : Nat) : String :=
  String.ofList ((s.toList.take hi).drop lo)

theorem indexByte_eq_some {s : String} {ys : List Char} (hs : s.toList = xs ++ c :: ys)
    (hxs : c ∉ xs) : indexByte s c = some xs.length := by
  have hnone : xs.findIdx? (fun x => decide (x = c)) = none := by
    rw [List.findIdx?_eq_none_iff]
    intro x hx
    simp only [decide_eq_false_iff_not]
    intro heq
    exact hxs (heq ▸ hx)
  unfold indexByte
  rw [hs, List.findIdx?_append, hnone]
  simp [List.findIdx?_cons]

/-! ## Trimming -/

/-- Trimming on the right stops at a character that is not dropped. -/
theorem rdropWhile_append_cons {p : Char → Bool} (hc : p c = false) (xs ys : List Char) :
    (xs ++ c :: ys).rdropWhile p = xs ++ c :: ys.rdropWhile p := by
  induction ys using List.reverseRecOn with
  | nil =>
    rw [List.rdropWhile_concat_neg p xs c (by simp [hc])]
    simp
  | append_singleton ys y ih =>
    rw [← List.cons_append, ← List.append_assoc]
    by_cases hy : p y = true
    · rw [List.rdropWhile_concat_pos p _ y hy, List.rdropWhile_concat_pos p _ y hy]
      exact ih
    · rw [List.rdropWhile_concat_neg p _ y hy, List.rdropWhile_concat_neg p _ y hy]
      simp

theorem toList_trimSpace (s : String) :
    (trimSpace s).toList = (s.toList.dropWhile isSpace).rdropWhile isSpace :=
  String.toList_ofList

/-- A text without a space stays. -/
theorem trimSpace_eq_self {s : String} (hs : ∀ c ∈ s.toList, isSpace c = false) :
    trimSpace s = s := by
  have hfront : s.toList.dropWhile isSpace = s.toList := by
    cases hlist : s.toList with
    | nil => rfl
    | cons c cs =>
      have hc : isSpace c = false := hs c (by rw [hlist]; exact List.mem_cons_self)
      simp [hc]
  have hend : s.toList.rdropWhile isSpace = s.toList := by
    rw [List.rdropWhile_eq_self_iff]
    intro hne
    rw [hs _ (List.getLast_mem hne)]
    exact Bool.false_ne_true
  apply String.toList_injective
  rw [toList_trimSpace, hfront, hend]

end GoLib
