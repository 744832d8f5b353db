import LineChat.Command.Report
import LineChat.Proofs.Line.RoundTrip
import LineChat.Proofs.Text.JsonReading
import LineChat.Proofs.Text.Outline

/-!
# Printed Messages Are Read Back

What a program reads that is fed the output of another one.

A message may hold any bytes but a newline, and what is printed is its text. The
text keeps the outline of the bytes, so it has no newline either, is not empty
and has no blanks around it: it is a message again (`Message.shown`), and what
is printed raw for several messages is the stream of those (`toUTF8_printed_raw`).
A framer reads them from it, wherever it is cut. Bytes that are text are read
back as they were.

A message that is printed as an object can be read back in full, also where its
bytes are not text and whatever the origin is, because only the text and the
number of bytes are told. The object is one line.

## Main definitions

* `Message.shown`: What is shown of a message, as a message.
* `Receipt`: A received message that is to be printed.
* `printed`: What is printed for several messages.

## Theorems

* `first_of_sameOutline`, `last_of_sameOutline`: No blanks around the bytes, none
  around the text.
* `toUTF8_printed_raw`: Raw output is the stream of what is shown.
* `printed_messages_are_read_back`: Raw output and objects are read back.
-/

namespace LineChat

theorem not_isWide_of_isBlank {x : UInt8} (h : isBlank x = true) : ¬ Text.IsWide x := by
  simp only [isBlank, Bool.or_eq_true, beq_iff_eq, Bool.and_eq_true, decide_eq_true_eq,
    UInt8.le_iff_toNat_le, ← UInt8.toNat_inj, UInt8.reduceToNat] at h
  unfold Text.IsWide
  omega

theorem head?_octets {b : ByteArray} (h : 0 < b.size) : (octets b).head? = some (byteAt b 0) := by
  rw [List.head?_eq_getElem?]
  exact byteAt_of_lt h

theorem getLast?_octets {b : ByteArray} (h : 0 < b.size) :
    (octets b).getLast? = some (byteAt b (b.size - 1)) := by
  rw [List.getLast?_eq_getElem?, length_octets]
  exact byteAt_of_lt (Nat.sub_lt h Nat.one_pos)

section Outline

variable {b t : ByteArray} (h : Text.SameOutline (octets b) (octets t))
include h

theorem size_pos_of_sameOutline (hb : 0 < b.size) : 0 < t.size := by
  rw [← length_octets] at hb ⊢
  exact List.length_pos_iff.mpr (mt h.eq_nil_iff.mp (List.length_pos_iff.mp hb))

/-- Blanks at an end of the text stand at that end of the bytes. -/
theorem first_of_sameOutline (hb : 0 < b.size) (hfirst : isBlank (byteAt b 0) = false) :
    isBlank (byteAt t 0) = false := by
  rw [Bool.eq_false_iff]
  intro hblank
  have hsame := h.head?_of_head? (not_isWide_of_isBlank hblank)
    (head?_octets (size_pos_of_sameOutline h hb))
  rw [head?_octets hb, Option.some.injEq] at hsame
  rw [← hsame, hfirst] at hblank
  cases hblank

theorem last_of_sameOutline (hb : 0 < b.size) (hlast : isBlank (byteAt b (b.size - 1)) = false) :
    isBlank (byteAt t (t.size - 1)) = false := by
  rw [Bool.eq_false_iff]
  intro hblank
  have hsame := h.getLast?_of_getLast? (not_isWide_of_isBlank hblank)
    (getLast?_octets (size_pos_of_sameOutline h hb))
  rw [getLast?_octets hb, Option.some.injEq] at hsame
  rw [← hsame, hlast] at hblank
  cases hblank

end Outline

namespace Message

theorem sameOutline_text (m : Message) :
    Text.SameOutline (octets m.bytes) (octets m.text.toUTF8) :=
  Text.sameOutline_lossy m.bytes

/-- What is shown of a message, its text, as a message: it has no newline and no
    blanks around it because the bytes have none. -/
def shown (m : Message) : Message where
  line := ⟨m.text.toUTF8, fun hmem =>
    m.line.unbroken (m.sameOutline_text.mem_of_mem (not_isWide_of_isBlank isBlank_newline) hmem)⟩
  nonempty := size_pos_of_sameOutline m.sameOutline_text m.nonempty
  first := first_of_sameOutline m.sameOutline_text m.nonempty m.first
  last := last_of_sameOutline m.sameOutline_text m.nonempty m.last

end Message

/-- A received message that is to be printed. -/
structure Receipt where
  /-- Where it came from. -/
  origin : String
  /-- When it is printed. -/
  time : String
  message : Message

/-- What has been printed once all of some messages are, one after the other. -/
def printed (format : OutputFormat) (receipts : List Receipt) : String :=
  String.join (receipts.map fun r => report format r.origin r.time r.message)

theorem toUTF8_report_raw (origin time : String) (m : Message) :
    (report .raw origin time m).toUTF8 = m.shown.wire := by
  apply octets_injective
  unfold report Message.wire
  rw [String.toUTF8_eq_toByteArray, String.toByteArray_append, octets_append, octets_wire]
  rfl

theorem toUTF8_printed_raw (receipts : List Receipt) :
    (printed .raw receipts).toUTF8 = wires (receipts.map (·.message.shown)) := by
  unfold printed
  induction receipts with
  | nil => rfl
  | cons r receipts ih =>
      rw [List.map_cons, List.map_cons, String.join_cons, wires_cons, String.toUTF8_eq_toByteArray,
        String.toByteArray_append]
      exact congrArg₂ (· ++ ·) (toUTF8_report_raw r.origin r.time r.message) ih

/-- Messages from anywhere are printed raw, one after the other. A framer whose
    limit covers the printed texts reads from that output, wherever it is cut, one
    message for each of them, in order and without a refusal: the bytes of its
    text, which are its own bytes if these are text. Printed as an object, a
    message is one line without control characters, whatever its bytes and its
    origin are, and the line read back tells the origin, the number of its bytes
    and its text. -/
theorem printed_messages_are_read_back :
    (∀ (receipts : List Receipt) (limit : Nat), limit < wordBound →
      (∀ r ∈ receipts, (Text.lossy r.message.bytes).toUTF8.size ≤ limit) →
      ∀ pieces, joined pieces = (printed .raw receipts).toUTF8 →
        let fed := Framer.feedAll pieces (Framer.ofLimit limit) #[]
        fed.refusal = none ∧
        fed.messages.toList.map Message.bytes
          = receipts.map (fun r => (Text.lossy r.message.bytes).toUTF8) ∧
        fed.framer.pending = Line.empty) ∧
    (∀ m : Message, m.bytes.IsValidUTF8 → (Text.lossy m.bytes).toUTF8 = m.bytes) ∧
    (∀ (origin time : String) (m : Message),
      report .json origin time m = reportLine .json origin time m ++ "\n" ∧
      (∀ c ∈ (reportLine .json origin time m).toList, 0x20 ≤ c.toNat) ∧
      Text.readObject? (reportLine .json origin time m) = some [
        ("origin", .text origin), ("size", .count m.bytes.size),
        ("message", .text (Text.lossy m.bytes)), ("timestamp", .text time)]) := by
  refine ⟨?_, ?_, ?_⟩
  · intro receipts limit hlimit hfits pieces hpieces fed
    have hshown : ∀ m ∈ receipts.map (·.message.shown), m.size ≤ limit := by
      rw [List.forall_mem_map]
      exact hfits
    rcases reads_wires hlimit hshown (hpieces.trans (toUTF8_printed_raw receipts)) with
      ⟨haccepted, hmessages, hpending⟩
    refine ⟨haccepted, ?_, hpending⟩
    rw [hmessages, List.map_map]
    rfl
  · intro m hvalid
    exact Text.toUTF8_lossy_of_valid hvalid
  · intro origin time m
    exact ⟨rfl, Text.shown_jsonObject _, Text.readObject?_jsonObject _⟩

/-- A message that is not text, with a carriage return inside, and one with quotes
    are printed one after the other and read back in two pieces; and the object of
    the first tells the four bytes that it has, not the six of its text. -/
theorem printed_messages_are_read_back_in_two_pieces :
    let broken : Message := ⟨⟨⟨#[0xff, 0x61, 0x0d, 0x62]⟩, by decide⟩, by decide, by decide,
      by decide⟩
    let quoted : Message := ⟨⟨"\"é\"".toUTF8, by decide +kernel⟩, by decide +kernel,
      by decide +kernel, by decide +kernel⟩
    let receipts : List Receipt := [⟨"10.0.0.1:80", "17", broken⟩, ⟨"server", "18", quoted⟩]
    let pieces := ["\uFFFDa\rb\n\"".toUTF8, "é\"\n".toUTF8]
    let fed := Framer.feedAll pieces (Framer.ofLimit 6) #[]
    6 < wordBound ∧
    (∀ r ∈ receipts, (Text.lossy r.message.bytes).toUTF8.size ≤ 6) ∧
    joined pieces = (printed .raw receipts).toUTF8 ∧
    fed.messages.toList.map Message.bytes = ["\uFFFDa\rb".toUTF8, "\"é\"".toUTF8] ∧
    quoted.bytes.IsValidUTF8 ∧
    (Text.lossy quoted.bytes).toUTF8 = quoted.bytes ∧
    Text.readObject? (reportLine .json "10.0.0.1:80" "17" broken) = some [
      ("origin", .text "10.0.0.1:80"), ("size", .count 4), ("message", .text "\uFFFDa\rb"),
      ("timestamp", .text "17")] := by
  intro broken quoted receipts pieces fed
  have hlimit : 6 < wordBound := by decide
  have hfits : ∀ r ∈ receipts, (Text.lossy r.message.bytes).toUTF8.size ≤ 6 := by decide +kernel
  have hpieces : joined pieces = (printed .raw receipts).toUTF8 := by decide +kernel
  have hvalid : quoted.bytes.IsValidUTF8 := "\"é\"".isValidUTF8
  have htexts : receipts.map (fun r => (Text.lossy r.message.bytes).toUTF8)
      = ["\uFFFDa\rb".toUTF8, "\"é\"".toUTF8] := by decide +kernel
  have hbroken : Text.lossy broken.bytes = "\uFFFDa\rb" := by decide +kernel
  rcases printed_messages_are_read_back with ⟨hraw, hsame, hjson⟩
  have hread := (hjson "10.0.0.1:80" "17" broken).2.2
  rw [hbroken] at hread
  exact ⟨hlimit, hfits, hpieces, (hraw receipts 6 hlimit hfits pieces hpieces).2.1.trans htexts,
    hvalid, hsame quoted hvalid, hread⟩

end LineChat
