/-!
# Blank characters

The characters with the property "white space": the five ASCII controls from tab to carriage
return, the space, the next-line control, and the separators of the wider character set.
-/

namespace CanonicalReply.Text

/-- Whether a character is white space. -/
def isBlank (c : Char) : Bool :=
  let n := c.toNat
  (9 ≤ n && n ≤ 13) || n == 0x20 || n == 0x85 || n == 0xA0 || n == 0x1680 ||
    (0x2000 ≤ n && n ≤ 0x200A) || n == 0x2028 || n == 0x2029 || n == 0x202F || n == 0x205F ||
    n == 0x3000

/-- The visible ones of the first 128 characters are not blank. -/
theorem isBlank_eq_false_of_visible {c : Char} (hlow : 32 < c.toNat) (hhigh : c.toNat < 127) :
    isBlank c = false := by
  simp only [isBlank, Bool.or_eq_false_iff, Bool.and_eq_false_iff, decide_eq_false_iff_not,
    beq_eq_false_iff_ne]
  omega

/-- A text without the blanks at its two ends. -/
def trimBlank (cs : List Char) : List Char :=
  ((cs.dropWhile isBlank).reverse.dropWhile isBlank).reverse

/-- Blanks in front of what begins with none are dropped, and no more. -/
theorem dropWhile_isBlank_append {front rest : List Char}
    (hfront : ∀ c ∈ front, isBlank c = true) (hrest : ∀ c ∈ rest.head?, isBlank c = false) :
    (front ++ rest).dropWhile isBlank = rest := by
  rw [List.dropWhile_append_of_pos hfront]
  cases rest with
  | nil => rfl
  | cons c rest => rw [List.dropWhile_cons, if_neg (by rw [hrest c rfl]; exact Bool.false_ne_true)]

/-- A text without blanks is what is left of it between blanks. -/
theorem trimBlank_append {front core back : List Char}
    (hfront : ∀ c ∈ front, isBlank c = true) (hcore : ∀ c ∈ core, isBlank c = false)
    (hback : ∀ c ∈ back, isBlank c = true) : trimBlank (front ++ (core ++ back)) = core := by
  cases core with
  | nil =>
    have hall : ∀ c ∈ front ++ ([] ++ back), isBlank c = true := by
      intro c hc
      rw [List.nil_append, List.mem_append] at hc
      exact hc.elim (hfront c) (hback c)
    rw [trimBlank, ← List.append_nil (front ++ ([] ++ back)),
      dropWhile_isBlank_append hall (by simp)]
    rfl
  | cons c core =>
    have hlast : ∀ d ∈ (c :: core).reverse.head?, isBlank d = false := fun d hd =>
      hcore d (List.mem_reverse.1 (List.mem_of_mem_head? hd))
    have hblanks : ∀ d ∈ back.reverse, isBlank d = true := fun d hd =>
      hback d (List.mem_reverse.1 hd)
    rw [trimBlank, dropWhile_isBlank_append hfront fun d hd => hcore d (by cases hd; simp),
      List.reverse_append, dropWhile_isBlank_append hblanks hlast, List.reverse_reverse]

/-- What is taken away at the ends of a text are blanks. -/
theorem exists_eq_append_trimBlank (cs : List Char) :
    ∃ front back, cs = front ++ (trimBlank cs ++ back) ∧
      (∀ c ∈ front, isBlank c = true) ∧ ∀ c ∈ back, isBlank c = true := by
  have htake : ∀ l : List Char, ∀ c ∈ l.takeWhile isBlank, isBlank c = true := fun l c hc =>
    List.all_eq_true.1 List.all_takeWhile c hc
  let rest := cs.dropWhile isBlank
  refine ⟨cs.takeWhile isBlank, (rest.reverse.takeWhile isBlank).reverse, ?_, htake cs, ?_⟩
  · have hrest : rest = trimBlank cs ++ (rest.reverse.takeWhile isBlank).reverse := by
      rw [trimBlank, ← List.reverse_append, List.takeWhile_append_dropWhile, List.reverse_reverse]
    rw [← hrest, List.takeWhile_append_dropWhile]
  · intro c hc
    exact htake _ c (List.mem_reverse.1 hc)

end CanonicalReply.Text
