/-!
# Blanks

The characters of the Unicode property White_Space, and trimming by them.  A text is blank when
nothing is left of it after trimming, which `isBlankText_iff` states on its characters.
-/

set_option autoImplicit false

namespace DynamicForms.Text

/-- The Unicode property White_Space. -/
def isBlank (c : Char) : Bool :=
  let n := c.toNat
  (0x09 ≤ n && n ≤ 0x0D) || n == 0x20 || n == 0x85 || n == 0xA0 || n == 0x1680 ||
    (0x2000 ≤ n && n ≤ 0x200A) || n == 0x2028 || n == 0x2029 || n == 0x202F || n == 0x205F ||
    n == 0x3000

/-- A text without the blanks it starts with. -/
def trimStart (text : List Char) : List Char := text.dropWhile isBlank

/-- A text without the blanks it ends with. -/
def trimEnd (text : List Char) : List Char := (text.reverse.dropWhile isBlank).reverse

/-- A text without the blanks around it. -/
def trim (text : List Char) : List Char := trimEnd (trimStart text)

/-- A text of which trimming leaves nothing. -/
def isBlankText (text : List Char) : Bool := (trim text).isEmpty

theorem trimStart_eq_nil_iff (text : List Char) :
    trimStart text = [] ↔ ∀ c ∈ text, isBlank c = true := by
  induction text with
  | nil => simp [trimStart]
  | cons c rest ih =>
    cases h : isBlank c <;> simp_all [trimStart, List.dropWhile]

theorem trimEnd_eq_nil_iff (text : List Char) :
    trimEnd text = [] ↔ ∀ c ∈ text, isBlank c = true := by
  have h := trimStart_eq_nil_iff text.reverse
  rw [trimEnd, List.reverse_eq_nil_iff, ← trimStart, h]
  exact forall_congr' fun c => by rw [List.mem_reverse]

theorem isBlankText_iff (text : List Char) :
    isBlankText text = true ↔ ∀ c ∈ text, isBlank c = true := by
  rw [isBlankText, trim, List.isEmpty_iff, trimEnd_eq_nil_iff]
  induction text with
  | nil => simp [trimStart]
  | cons c rest ih =>
    cases h : isBlank c <;> simp_all [trimStart, List.dropWhile]

theorem trimStart_eq_self {text : List Char} (h : ∀ c ∈ text, isBlank c = false) :
    trimStart text = text := by
  cases text with
  | nil => rfl
  | cons c rest => rw [trimStart, List.dropWhile_cons_of_neg (by simp [h c (by simp)])]

theorem trim_eq_self {text : List Char} (h : ∀ c ∈ text, isBlank c = false) :
    trim text = text := by
  have hreverse : trimStart text.reverse = text.reverse := trimStart_eq_self (by simpa using h)
  rw [trim, trimStart_eq_self h, trimEnd, ← trimStart, hreverse, List.reverse_reverse]

end DynamicForms.Text
