import Mathlib.Data.Fin.Basic
import Mathlib.Data.Int.Notation
import Mathlib.Data.List.Basic
import Mathlib.Tactic.Common

/-!
# Words in memory

A memory holds a byte at every offset.  A message occupies the offsets from zero
on, behind it is whatever the memory held before.  Words of 16 bits are stored low
byte first; reading one back at its offset gives the word that was stored.
-/

namespace IotLab.Library

abbrev Byte := Fin 256

abbrev Word := Fin 65536

abbrev Memory := ℕ → Byte

/-- For the literals of `Byte`. -/
@[instance] theorem byteCount : @NeZero ℕ Zero.ofOfNat0 256 := ⟨by decide⟩

/-- For the literals of `Word`. -/
@[instance] theorem wordCount : @NeZero ℕ Zero.ofOfNat0 65536 := ⟨by decide⟩

/-- The two bytes of a word, the low byte first. -/
def wordBytes (word : Word) : List Byte :=
  [⟨word.val % 256, Nat.mod_lt _ (by decide)⟩,
    ⟨word.val / 256, Nat.div_lt_of_lt_mul word.isLt⟩]

/-- The 16-bit word at an offset. -/
def loadWord (memory : Memory) (offset : ℕ) : ℕ :=
  (memory offset).val + 256 * (memory (offset + 1)).val

/-- The signed value of 16 bits. -/
def toInt16 (value : ℤ) : ℤ := (value + 32768) % 65536 - 32768

/-- The 16 bits of a signed value. -/
def ofInt16 (value : ℤ) : Word :=
  ⟨(value % 65536).toNat, by omega⟩

theorem word_lt (low high : Byte) : low.val + 256 * high.val < 65536 := by
  omega

theorem le_toInt16 (value : ℤ) : -32768 ≤ toInt16 value := by
  simp only [toInt16]
  omega

theorem toInt16_lt (value : ℤ) : toInt16 value < 32768 := by
  simp only [toInt16]
  omega

/-- A memory that begins with a message. -/
def inMemory (message : List Byte) (beyond : Memory) : Memory :=
  fun offset => message[offset]?.getD (beyond offset)

theorem inMemory_append (before after : List Byte) (beyond : Memory) (offset : ℕ) :
    inMemory (before ++ after) beyond (before.length + offset) =
      inMemory after (fun index => beyond (before.length + index)) offset := by
  simp only [inMemory]
  rw [List.getElem?_append_right (Nat.le_add_right _ _), Nat.add_sub_cancel_left]

theorem loadWord_append (before after : List Byte) (beyond : Memory)
    (offset : ℕ) :
    loadWord (inMemory (before ++ after) beyond) (before.length + offset) =
      loadWord (inMemory after fun index => beyond (before.length + index)) offset := by
  simp only [loadWord, Nat.add_assoc, inMemory_append]

theorem loadWord_wordBytes (word : Word) (after : List Byte) (beyond : Memory) :
    loadWord (inMemory (wordBytes word ++ after) beyond) 0 = word.val := by
  simp only [loadWord, inMemory, wordBytes, List.cons_append, List.nil_append,
    List.getElem?_cons_zero, List.getElem?_cons_succ, Option.getD_some]
  exact Nat.mod_add_div word.val 256

/-- Every word of a message is read back at its own offset. -/
theorem loadWord_words (words : List Word) (after : List Byte) (beyond : Memory)
    (index : ℕ) (inside : index < words.length) :
    loadWord (inMemory (words.flatMap wordBytes ++ after) beyond) (2 * index) =
      words[index].val := by
  induction words generalizing index beyond with
  | nil => cases inside
  | cons word rest ih =>
      rw [List.flatMap_cons, List.append_assoc]
      cases index with
      | zero => exact loadWord_wordBytes word _ beyond
      | succ index =>
          have offset : 2 * (index + 1) = (wordBytes word).length + 2 * index := by
            simp only [wordBytes, List.length_cons, List.length_nil]
            omega
          rw [offset, loadWord_append]
          exact ih _ index (Nat.lt_of_succ_lt_succ inside)

theorem map_loadWord_words (words : List Word) (after : List Byte)
    (beyond : Memory) :
    (List.range words.length).map (fun index =>
        loadWord (inMemory (words.flatMap wordBytes ++ after) beyond) (2 * index)) =
      words.map Fin.val := by
  apply List.ext_getElem
  · simp
  · intro index inside _
    simp only [List.length_map, List.length_range] at inside
    simp only [List.getElem_map, List.getElem_range]
    exact loadWord_words words after beyond index inside

theorem toInt16_ofInt16 {value : ℤ} (low : -32768 ≤ value) (high : value < 32768) :
    toInt16 (ofInt16 value).val = value := by
  simp only [toInt16, ofInt16]
  omega

end IotLab.Library
