import IntentRollout.Digest
import Mathlib.Data.List.Basic

/-! Digests block by block. States that are written down for the blocks of a message are checked one at a time, so the
digest of a long text is known without the rounds of all its blocks at once. -/

namespace IntentRollout.Digest

private theorem toList_loop (bytes : ByteArray) (index : Nat) (done : List UInt8) :
    ByteArray.toList.loop bytes index done = done.reverse ++ bytes.data.toList.drop index := by
  fun_induction ByteArray.toList.loop bytes index done with
  | case1 index done inside ih =>
    have within : index < bytes.data.toList.length := inside
    rw [ih, List.reverse_cons, List.append_assoc, List.drop_eq_getElem_cons within]
    simp [ByteArray.get!, getElem!_pos, inside]
  | case2 index done outside =>
    have ended : bytes.data.toList.length ≤ index := Nat.le_of_not_lt outside
    rw [List.drop_eq_nil_of_le ended, List.append_nil]

def message (characters : List Char) : List UInt32 :=
  let bytes := characters.flatMap String.utf8EncodeChar
  words (bytes ++ padding bytes.length)

private theorem ofText_ofList (characters : List Char) : ofText (String.ofList characters) =
    (absorbBlocks ((message characters).length / 16) initial (message characters)).text := by
  have bytes : (String.ofList characters).toUTF8 = (characters.flatMap String.utf8EncodeChar).toByteArray := rfl
  rw [ofText, ofBytes, bytes, ByteArray.toList, toList_loop]
  simp [message]

/-- Whether each block leads from one state to the next of those that are listed, and no words are left. -/
def leadsThrough : List State → State → List UInt32 → Bool
  | [], _, words => words.isEmpty
  | next :: states, state, words =>
    (words.take 16).length = 16 && state.absorb (words.take 16) = next && leadsThrough states next (words.drop 16)

private theorem absorbBlocks_of_leadsThrough {states : List State} {state : State} {words : List UInt32}
    (led : leadsThrough states state words = true) :
    words.length = 16 * states.length ∧ absorbBlocks states.length state words = states.getLastD state := by
  induction states generalizing state words with
  | nil =>
    obtain rfl := List.isEmpty_iff.mp led
    exact ⟨rfl, rfl⟩
  | cons next states ih =>
    simp only [leadsThrough, Bool.and_eq_true, decide_eq_true_eq, List.length_take] at led
    obtain ⟨⟨full, absorbed⟩, rest⟩ := led
    obtain ⟨length, last⟩ := ih rest
    rw [List.length_drop] at length
    constructor
    · rw [List.length_cons]
      omega
    · change absorbBlocks states.length (state.absorb (words.take 16)) (words.drop 16) = _
      rw [absorbed, last, List.getLastD_cons]

theorem ofText_of_leadsThrough {states : List State} {characters : List Char}
    (led : leadsThrough states initial (message characters) = true) :
    ofText (String.ofList characters) = (states.getLastD initial).text := by
  obtain ⟨length, last⟩ := absorbBlocks_of_leadsThrough led
  have count : (message characters).length / 16 = states.length := by omega
  rw [ofText_ofList, count, last]

end IntentRollout.Digest
