import Conform.Proofs.Json.Quotation
import Conform.Proofs.Json.Shrinking
import Conform.Schema.Document

/-!
# Documents in texts

A document may be an object, a text that holds the object, a text that holds such a text, and so on, or
the bytes of one of these texts. `Unwraps` takes the texts off without a bound on their number: it goes on
as long as what is read is a text again. Every text is longer than the text it holds, by its quotes at
least, so this ends on every text, after at most half as many steps as the text has characters
(`unwrapping_ends`), and the number of steps that loading allows is never used up. If there is an object
in the end, what comes of loading the document is what comes of loading the object (`Loads.eq`).
-/

namespace Conform.Schema

/-! ## Unwrapping a text -/

/-- What comes of a text that a reader reads, and after how many unwrappings: a text that is read off it
    is read as a document of its own. -/
inductive Unwraps : (List Char → Except Json.Stop Value) → List Char → Nat →
    Except DocumentFault Tree → Prop where
  /-- The text holds no document. -/
  | fault {reader : List Char → Except Json.Stop Value} {s : List Char} {stop : Json.Stop}
      (h : reader s = .error stop) : Unwraps reader s 0 (.error (.json (stop.fault s)))
  /-- The text holds a document that is no text. -/
  | decoded {reader : List Char → Except Json.Stop Value} {s : List Char} {v : Value}
      (h : reader s = .ok v) (hv : v.isString = false) : Unwraps reader s 0 (ofDecoded v)
  /-- The text holds a text. -/
  | text {reader : List Char → Except Json.Stop Value} {s : List Char} {x : String} {n : Nat}
      {o : Except DocumentFault Tree} (h : reader s = .ok (.string x))
      (hx : Unwraps Json.read x.toList n o) : Unwraps reader s (n + 1) o

section Unwrapping

variable {reader : List Char → Except Json.Stop Value} {s : List Char} {n m : Nat}
  {o o' : Except DocumentFault Tree}

/-- One thing comes of a text, after one number of unwrappings. -/
theorem Unwraps.unique (h : Unwraps reader s n o) (h' : Unwraps reader s m o') : m = n ∧ o' = o := by
  induction h generalizing m o' with
  | fault h =>
    cases h' with
    | fault h' =>
      rw [h] at h'
      cases h'
      exact ⟨rfl, rfl⟩
    | decoded h' | text h' =>
      rw [h] at h'
      cases h'
  | decoded h hv =>
    cases h' with
    | fault h' =>
      rw [h] at h'
      cases h'
    | decoded h' =>
      rw [h] at h'
      cases h'
      exact ⟨rfl, rfl⟩
    | text h' =>
      rw [h] at h'
      cases h'
      cases hv
  | text h hx ih =>
    cases h' with
    | fault h' =>
      rw [h] at h'
      cases h'
    | decoded h' hv =>
      rw [h] at h'
      cases h'
      cases hv
    | text h' hx' =>
      rw [h] at h'
      cases h'
      obtain ⟨rfl, rfl⟩ := ih hx'
      exact ⟨rfl, rfl⟩

/-- Each unwrapping takes off two characters at least. -/
theorem Unwraps.length_le (h : Unwraps reader s n o)
    (hreader : ∀ x, reader s = .ok (.string x) → x.toList.length + 2 ≤ s.length) :
    2 * n ≤ s.length := by
  induction h with
  | fault | decoded => exact Nat.zero_le _
  | text h hx ih =>
    have hinner := ih fun y hy => Json.length_of_read hy
    have houter := hreader _ h
    omega

/-- Unwrapping ends: where the steps are at least two more than the text that comes next has characters,
    loading gets to what comes of it. -/
theorem exists_unwraps {steps : Nat} (hpos : 0 < steps)
    (hsteps : ∀ x, reader s = .ok (.string x) → x.toList.length + 1 < steps) :
    ∃ n, Unwraps reader s n (ofChars steps reader s) := by
  -- each text read is shorter than the one it was in, by more than the step that reading it takes
  induction steps generalizing reader s with
  | zero => omega
  | succ steps ih =>
    cases hread : reader s with
    | error stop =>
      rw [ofChars, hread]
      exact ⟨0, .fault hread⟩
    | ok v =>
      rw [ofChars, hread]
      cases v with
      | string x =>
        have hx := hsteps x hread
        have hinner : ∀ y, Json.read x.toList = .ok (.string y) → y.toList.length + 1 < steps := by
          intro y hy
          have hshorter := Json.length_of_read hy
          omega
        obtain ⟨n, hn⟩ := ih (by omega) hinner
        exact ⟨n + 1, .text hread hn⟩
      | _ => exact ⟨0, .decoded hread rfl⟩

theorem exists_unwraps_ofText (text : String) : ∃ n, Unwraps Json.read text.toList n (ofText text) := by
  refine exists_unwraps (Nat.succ_pos _) fun x hx => ?_
  have hshorter := Json.length_of_read hx
  rw [← String.length_toList]
  omega

theorem exists_unwraps_ofBytes {bytes : List UInt8} (hb : Text.Encoding.decode bytes = .ok s) :
    ∃ n, Unwraps Json.document s n (ofBytes bytes) := by
  unfold ofBytes
  rw [hb]
  refine exists_unwraps (Nat.succ_pos _) fun x hx => ?_
  have hshorter := Json.length_of_document hx
  omega

/-- What is left over in the end is no text. -/
theorem Unwraps.ne_text (h : Unwraps reader s n o) : o ≠ .error (.root "str") := by
  induction h with
  | fault => nofun
  | text h hx ih => exact ih
  | @decoded _ _ v h hv =>
    cases v with
    | string => cases hv
    | object es =>
      rw [ofDecoded]
      split
      · simp
      · split <;> simp
    | _ => simp [ofDecoded, typeWord]

/-- Unwrapping a text ends in an outcome and in no other: after as many unwrappings as half the
    characters of the text, or fewer, a document is left over that is no text, or a text without one. -/
def EndsIn (reader : List Char → Except Json.Stop Value) (s : List Char)
    (o : Except DocumentFault Tree) : Prop :=
  ∃ n, 2 * n ≤ s.length ∧ (∀ m o', Unwraps reader s m o' ↔ m = n ∧ o' = o) ∧ o ≠ .error (.root "str")

theorem Unwraps.endsIn (h : Unwraps reader s n o)
    (hreader : ∀ x, reader s = .ok (.string x) → x.toList.length + 2 ≤ s.length) :
    EndsIn reader s o := by
  refine ⟨n, h.length_le hreader, fun m o' => ⟨fun h' => h.unique h', ?_⟩, h.ne_text⟩
  rintro ⟨rfl, rfl⟩
  exact h

/-- The texts that a document is wrapped in come to an end. A text that a text holds is shorter by two
    characters at least, whether the text is read as it is or from bytes; so after finitely many
    unwrappings what comes of loading the text, or the bytes of a text, is a schema or the fault of
    something that is not a text again. -/
theorem unwrapping_ends :
    (∀ (s : List Char) (x : String),
      Json.read s = .ok (.string x) ∨ Json.document s = .ok (.string x) →
      x.toList.length + 2 ≤ s.length) ∧
    (∀ text : String, EndsIn Json.read text.toList (load (.string text))) ∧
    ∀ (bytes : List UInt8) (s : List Char), Text.Encoding.decode bytes = .ok s →
      EndsIn Json.document s (ofBytes bytes) := by
  refine ⟨fun s x h => h.elim Json.length_of_read Json.length_of_document, fun text => ?_,
    fun bytes s hb => ?_⟩
  · obtain ⟨n, hn⟩ := exists_unwraps_ofText text
    exact hn.endsIn fun x hx => Json.length_of_read hx
  · obtain ⟨n, hn⟩ := exists_unwraps_ofBytes hb
    exact hn.endsIn fun x hx => Json.length_of_document hx

/-- A text that holds the text of an empty object, written with escapes, and the bytes of a text that
    holds the text of a number, in two bytes for each character. -/
theorem unwrapping_ends_escapes :
    Json.read "\"\\u007b\\u007d\"".toList = .ok (.string "\x7b\x7d") ∧
    "\x7b\x7d".toList.length + 2 ≤ "\"\\u007b\\u007d\"".toList.length ∧
    Text.Encoding.decode [0xFF, 0xFE, 0x22, 0, 0x37, 0, 0x22, 0] = .ok "\"7\"".toList ∧
    EndsIn Json.document "\"7\"".toList
      (ofBytes [0xFF, 0xFE, 0x22, 0, 0x37, 0, 0x22, 0]) := by
  have hescapes : "\"\\u007b\\u007d\"".toList =
      '"' :: (Json.unicodeEscape '\x7b' ++ (Json.unicodeEscape '\x7d' ++ ['"'])) := rfl
  have hchars (opening : List Char) : Json.chars opening 0
      (Json.unicodeEscape '\x7b' ++ (Json.unicodeEscape '\x7d' ++ ['"'])) =
      .ok (['\x7b', '\x7d'], []) := by
    rw [Json.chars_unicodeEscape (by simp), Json.chars_unicodeEscape (by simp)]
    rfl
  have hread : Json.read "\"\\u007b\\u007d\"".toList = .ok (.string "\x7b\x7d") := by
    rw [hescapes, Json.read_of_chars (hchars _)]
  have hdecode : Text.Encoding.decode [0xFF, 0xFE, 0x22, 0, 0x37, 0, 0x22, 0] =
      .ok "\"7\"".toList := by
    simp [Text.Encoding.decode, Text.Encoding.decodeAs, Text.Encoding.units16,
      Text.Encoding.ofUnits16, Text.Encoding.unit16, Except.map]
  obtain ⟨hshorter, -, hbytes⟩ := unwrapping_ends
  exact ⟨hread, hshorter _ _ (Or.inl hread), hdecode, hbytes _ _ hdecode⟩

end Unwrapping

/-! ## Documents that hold an object -/

variable {es : List (String × Value)}

/-- A document that holds an object with the entries `es`: the object itself, or a text that holds a
    document that does. -/
inductive Holding (es : List (String × Value)) : Value → Prop where
  | object : Holding es (.object es)
  | text {s : String} {v : Value} (hs : Json.read s.toList = .ok v) (hv : Holding es v) :
      Holding es (.string s)

/-- What came of loading a document that holds an object with the entries `es`, where the document is
    given as it is or as the bytes of a text. -/
inductive Loads (es : List (String × Value)) : Except DocumentFault Tree → Prop where
  | document {d : Value} (hd : Holding es d) : Loads es (load d)
  | bytes {bytes : List UInt8} {s : List Char} {v : Value}
      (hb : Text.Encoding.decode bytes = .ok s) (hs : Json.document s = .ok v) (hv : Holding es v) :
      Loads es (ofBytes bytes)

theorem Holding.exists_unwraps {v : Value} (hv : Holding es v)
    {reader : List Char → Except Json.Stop Value} {s : List Char} (hread : reader s = .ok v) :
    ∃ n, Unwraps reader s n (ofDecoded (.object es)) := by
  induction hv generalizing reader s with
  | object => exact ⟨0, .decoded hread rfl⟩
  | text hs hv ih =>
    obtain ⟨n, hn⟩ := ih hs
    exact ⟨n + 1, .text hread hn⟩

theorem load_of_holding {d : Value} (hd : Holding es d) : load d = ofDecoded (.object es) := by
  cases hd with
  | object => rfl
  | @text x w hx hw =>
    obtain ⟨n, hobject⟩ := hw.exists_unwraps hx
    obtain ⟨m, htext⟩ := exists_unwraps_ofText x
    exact (hobject.unique htext).2

/-- However the document is given, what comes of it is what comes of the object. -/
theorem Loads.eq {o : Except DocumentFault Tree} (h : Loads es o) : o = ofDecoded (.object es) := by
  cases h with
  | document hd => exact load_of_holding hd
  | bytes hb hs hv =>
    obtain ⟨n, hobject⟩ := hv.exists_unwraps hs
    obtain ⟨m, hbytes⟩ := exists_unwraps_ofBytes hb
    exact (hobject.unique hbytes).2

end Conform.Schema
