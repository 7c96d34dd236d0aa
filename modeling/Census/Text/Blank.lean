/-! Blank characters and trimming. Two sets are in use: the characters that may pad a text, and
the smaller set that may pad a numeral in a query. -/
namespace Census.Text

/-- The Unicode property White_Space. -/
def isWhiteSpace (c : Char) : Bool :=
  let n := c.toNat
  (0x9 ≤ n && n ≤ 0xD) || n == 0x20 || n == 0x85 || n == 0xA0 || n == 0x1680 ||
    (0x2000 ≤ n && n ≤ 0x200A) || n == 0x2028 || n == 0x2029 || n == 0x202F || n == 0x205F ||
    n == 0x3000

/-- White space and the four information separators. -/
def isBlank (c : Char) : Bool :=
  isWhiteSpace c || (0x1C ≤ c.toNat && c.toNat ≤ 0x1F)

def trimBy (p : Char → Bool) (cs : List Char) : List Char :=
  ((cs.dropWhile p).reverse.dropWhile p).reverse

def trim (s : String) : String :=
  String.ofList (trimBy isBlank s.toList)

/-- Every run of blanks as one space, none at the ends. -/
def collapse (s : String) : String :=
  let words := (s.toList.splitBy fun a b => isBlank a == isBlank b).filter fun run =>
    !run.all isBlank
  " ".intercalate (words.map String.ofList)

def unifyLines : List Char → List Char
  | [] => []
  | '\r' :: '\n' :: cs => '\n' :: unifyLines cs
  | '\r' :: cs => '\n' :: unifyLines cs
  | c :: cs => c :: unifyLines cs

def isAllBlank (s : String) : Bool :=
  s.toList.all isBlank

theorem isBlank_eq_false {c : Char} (h : 0x20 < c.toNat ∧ c.toNat < 0x7F) : isBlank c = false := by
  simp [isBlank, isWhiteSpace]
  omega

theorem dropWhile_eq_self {p : Char → Bool} {cs : List Char} (h : ∀ c ∈ cs.head?, p c = false) :
    cs.dropWhile p = cs := by
  cases cs with
  | nil => rfl
  | cons c cs => rw [List.dropWhile_cons, h c rfl]; rfl

theorem trimBy_eq_self {p : Char → Bool} {cs : List Char} (hfirst : ∀ c ∈ cs.head?, p c = false)
    (hlast : ∀ c ∈ cs.getLast?, p c = false) : trimBy p cs = cs := by
  unfold trimBy
  rw [dropWhile_eq_self hfirst, dropWhile_eq_self (by rwa [List.head?_reverse]),
    List.reverse_reverse]

theorem unifyLines_eq_self {cs : List Char} (h : '\r' ∉ cs) : unifyLines cs = cs := by
  fun_induction unifyLines cs <;> simp_all

theorem not_of_mem_getLast?_trimBy {p : Char → Bool} {cs : List Char} {c : Char}
    (h : c ∈ (trimBy p cs).getLast?) : p c = false := by
  unfold trimBy at h
  rw [List.getLast?_reverse] at h
  have hhead := List.head?_dropWhile_not p (cs.dropWhile p).reverse
  rw [Option.mem_def.mp h] at hhead
  exact hhead

theorem not_of_mem_head?_trimBy {p : Char → Bool} {cs : List Char} {c : Char}
    (h : c ∈ (trimBy p cs).head?) : p c = false := by
  have hprefix : trimBy p cs <+: cs.dropWhile p := by
    unfold trimBy
    rw [← List.reverse_suffix, List.reverse_reverse]
    exact List.dropWhile_suffix p
  have hhead := List.head?_dropWhile_not p cs
  obtain ⟨rest, hrest⟩ := hprefix
  rw [← hrest, List.head?_append, Option.mem_def.mp h] at hhead
  exact hhead

end Census.Text
