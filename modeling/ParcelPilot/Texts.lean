import Mathlib.Data.List.Basic
import Mathlib.Data.String.Basic

namespace ParcelPilot

-- Texts put together of fields with a separator that no field but the last holds.
namespace Texts

theorem cut_list {c : Char} {one two x y : List Char} (first : c ∉ one) (second : c ∉ two) :
    one ++ c :: x = two ++ c :: y ↔ one = two ∧ x = y := by
  constructor
  · intro same
    rcases List.append_eq_append_iff.mp same with ⟨more,rfl,tail⟩ | ⟨more,rfl,tail⟩
    · rcases List.cons_eq_append_iff.mp tail with ⟨rfl,tail⟩ | ⟨rest,rfl,_⟩
      · exact ⟨by simp,(List.cons.inj tail).2⟩
      · simp at second
    · rcases List.cons_eq_append_iff.mp tail with ⟨rfl,tail⟩ | ⟨rest,rfl,_⟩
      · exact ⟨by simp,(List.cons.inj tail).2.symm⟩
      · simp at first
  · rintro ⟨rfl,rfl⟩
    rfl

theorem cut {separator : String} {c : Char} (single : separator.toList = [c])
    {one two x y : String} (first : c ∉ one.toList) (second : c ∉ two.toList) :
    one ++ separator ++ x = two ++ separator ++ y ↔ one = two ∧ x = y := by
  simp only [← String.toList_inj,String.toList_append,single,List.append_assoc,List.singleton_append]
  exact cut_list first second

theorem nat_digits {n : Nat} {c : Char} (member : c ∈ (toString n).toList) : c.isDigit = true := by
  rw [Nat.toString_eq_repr,Nat.toList_repr] at member
  exact Nat.isDigit_of_mem_toDigits (by decide) (by decide) member

theorem nat_text_inj {one two : Nat} : toString one = toString two ↔ one = two := by
  constructor
  · intro same
    have digits : Nat.toDigits 10 one = Nat.toDigits 10 two := by
      simpa only [Nat.toString_eq_repr,Nat.toList_repr] using congrArg String.toList same
    simpa using congrArg (fun read => Nat.ofDigitChars 10 read 0) digits
  · rintro rfl
    rfl

theorem int_text {n : Int} {c : Char} (member : c ∈ (toString n).toList) :
    c = '-' ∨ c.isDigit = true := by
  cases n with
  | ofNat n => exact .inr (nat_digits member)
  | negSucc n =>
      change c ∈ ("-" ++ toString (n + 1)).toList at member
      rw [String.toList_append,List.mem_append] at member
      rcases member with sign | digit
      · exact .inl (by simpa using sign)
      · exact .inr (nat_digits digit)

theorem int_text_inj {one two : Int} : toString one = toString two ↔ one = two := by
  have sign (n m : Nat) : toString (n : Int) ≠ "-" ++ toString m := by
    intro same
    have digit : '-' ∈ (toString n).toList := by
      rw [show toString n = "-" ++ toString m from same,String.toList_append]
      exact List.mem_append_left _ (by decide)
    exact absurd (nat_digits digit) (by decide)
  constructor
  · intro same
    cases one with
    | ofNat one =>
        cases two with
        | ofNat two => exact congrArg Int.ofNat (nat_text_inj.mp same)
        | negSucc two => exact absurd same (sign one (two + 1))
    | negSucc one =>
        cases two with
        | ofNat two => exact absurd same.symm (sign two (one + 1))
        | negSucc two =>
            have rest := nat_text_inj.mp ((String.append_right_inj "-").mp same)
            rw [Nat.succ.inj rest]
  · rintro rfl
    rfl

end Texts

end ParcelPilot
