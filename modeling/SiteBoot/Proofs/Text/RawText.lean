import Mathlib
import SiteBoot.Text.RawText
/-!
# Raw text

Raw texts are put together and taken apart byte by byte, and text that was made raw keeps its
characters apart.
-/

namespace SiteBoot

namespace RawText

@[simp] lemma bytes_append (first second : RawText) :
    (first ++ second).bytes = first.bytes ++ second.bytes := rfl

lemma bytes_ofString (text : String) :
    (ofString text).bytes = text.toList.flatMap String.utf8EncodeChar := by
  obtain ⟨chars, rfl⟩ : ∃ chars, text = String.ofList chars := ⟨text.toList, by simp⟩
  simp [ofString, List.utf8Encode]

lemma eq_of_append_cons {byte : UInt8} {first second rest others : List UInt8}
    (hfirst : byte ∉ first) (hsecond : byte ∉ second)
    (h : first ++ byte :: rest = second ++ byte :: others) : first = second := by
  have hbefore : ∀ {start : List UInt8} (more : List UInt8), byte ∉ start →
      (start ++ byte :: more).takeWhile (· ≠ byte) = start := by
    intro start more hstart
    have hall : ∀ b ∈ start, decide (b ≠ byte) := by
      intro b hb
      simpa using fun heq : b = byte => hstart (heq ▸ hb)
    rw [List.takeWhile_append_of_pos hall, List.takeWhile_cons_of_neg (by simp), List.append_nil]
  rw [← hbefore rest hfirst, h, hbefore others hsecond]

lemma toNat_eq_of_mem {c : Char} {byte : UInt8} (h : byte ∈ String.utf8EncodeChar c)
    (hbyte : byte.toNat < 0x80) : c.toNat = byte.toNat := by
  have hmod : ∀ n : Nat, byte = UInt8.ofNat n → n % 256 = byte.toNat := by
    rintro n rfl
    exact UInt8.toNat_ofNat'.symm
  rw [String.utf8EncodeChar] at h
  change c.val.toNat = byte.toNat
  -- the bytes of longer characters are 128 or more
  split_ifs at h <;> simp only [List.mem_cons, List.not_mem_nil, or_false] at h
  · have hval := hmod _ h
    omega
  · rcases h with h | h <;> have hval := hmod _ h <;> omega
  · rcases h with h | h | h <;> have hval := hmod _ h <;> omega
  · rcases h with h | h | h | h <;> have hval := hmod _ h <;> omega

lemma equals_mem_bytes_iff (text : String) : 0x3D ∈ (ofString text).bytes ↔ '=' ∈ text.toList := by
  rw [bytes_ofString, List.mem_flatMap]
  constructor
  · rintro ⟨c, hc, hbyte⟩
    have hequals : c = '=' := Char.toNat_inj.mp (toNat_eq_of_mem hbyte (by decide))
    exact hequals ▸ hc
  · intro h
    exact ⟨'=', h, by decide⟩

lemma ofString_injective : Function.Injective ofString := by
  intro text other h
  have htext := congrArg text? h
  rw [text?_ofString, text?_ofString] at htext
  exact Option.some.inj htext

/-! ### Texts put together -/

lemma append_assoc (first second third : RawText) :
    first ++ second ++ third = first ++ (second ++ third) :=
  congrArg mk (List.append_assoc first.bytes second.bytes third.bytes)

@[simp] lemma append_nothing (raw : RawText) : raw ++ nothing = raw :=
  congrArg mk (List.append_nil raw.bytes)

lemma cut?_append {byte : UInt8} {before : List UInt8} (h : byte ∉ before) (after : List UInt8) :
    (RawText.mk (before ++ byte :: after)).cut? byte = some (⟨before⟩, ⟨after⟩) := by
  have hall : ∀ b ∈ before, decide (b ≠ byte) := by
    intro b hb
    simpa using fun heq : b = byte => h (heq ▸ hb)
  have hspan : (before ++ byte :: after).span (· ≠ byte) = (before, byte :: after) := by
    rw [List.span_eq_takeWhile_dropWhile, List.takeWhile_append_of_pos hall,
      List.dropWhile_append_of_pos hall, List.takeWhile_cons_of_neg (by simp),
      List.dropWhile_cons_of_neg (by simp), List.append_nil]
  rw [cut?, hspan]

end RawText

end SiteBoot
