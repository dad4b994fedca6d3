/-!
# Hexadecimal numerals

The digits of a natural number to base sixteen, most significant first, and the two written
forms used in texts: upper case filled up to four digits, and lower case without leading
zeros. Reading the digits back gives the number, so neither form loses anything.
-/
namespace ScannerAlphabet.Text.Hex

/-- Zero has one digit. -/
def digits (n : Nat) : List Nat :=
  if _h : n < 16 then [n] else digits (n / 16) ++ [n % 16]
termination_by n

/-- The number that a list of digits stands for. -/
def value (ds : List Nat) : Nat :=
  ds.foldl (fun n d => 16 * n + d) 0

@[simp] theorem value_digits (n : Nat) : value (digits n) = n := by
  induction n using Nat.strongRecOn with
  | ind n ih =>
    rw [digits]
    split
    · simp [value]
    · have h := ih (n / 16) (by omega)
      simp only [value] at h ⊢
      rw [List.foldl_append, h]
      simp only [List.foldl_cons, List.foldl_nil]
      omega

theorem digits_lt (n : Nat) : ∀ d ∈ digits n, d < 16 := by
  induction n using Nat.strongRecOn with
  | ind n ih =>
    intro d hd
    rw [digits] at hd
    split at hd
    · simp only [List.mem_singleton] at hd
      omega
    · rcases List.mem_append.mp hd with hd | hd
      · exact ih (n / 16) (by omega) d hd
      · simp only [List.mem_singleton] at hd
        omega

/-- Upper case, with zeros in front up to four digits. -/
def upper (n : Nat) : String :=
  String.ofList (((digits n).map fun d => (Nat.digitChar d).toUpper).leftpad 4 '0')

/-- Lower case, without leading zeros. -/
def lower (n : Nat) : String :=
  String.ofList ((digits n).map Nat.digitChar)

end ScannerAlphabet.Text.Hex
