import LineChat.Line.Encoding
import LineChat.Proofs.Line.Trimming

/-!
# Messages on the Wire

Messages that are written one after the other, and what is read of them.

A message is trimmed and holds no newline, so writing it as a line and reading
the line back changes nothing: trimming finds the whole of it
(`trimmed_bytes`), and a buffer takes exactly its bytes and a newline or
refuses (`appendLine_message_cases`). Blank payloads and embedded newlines, the
other two answers of `appendLine`, do not occur with messages.

`wires` is the stream of a list of messages. What a relay has handed over at
some moment may end anywhere, also inside a line, so the reading side is stated
for a prefix of that stream: the messages read from it are a prefix of the
messages written (`messagesOf_within_prefix`), and all of them if the stream is
complete.

## Main definitions

* `wires`: The stream of a list of messages.

## Theorems

* `trimmed_bytes`: Nothing of a message is trimmed away.
* `ofLine?_line`: A message is read back from its line.
* `appends_after_reserve`: Room that is reserved for a line is there.
* `appendLine_message_cases`: A message is appended as one line or refused.
* `messagesOf_bytes`: The bytes of the messages of lines, trimmed and none of them blank.
* `split_wires`: The records of messages written one after the other.
* `messagesOf_within_prefix`: A part of the stream gives a part of the messages.
* `messagesOf_of_fits`: The whole stream gives all of them.
-/

namespace LineChat

/-- The stream of messages written one after the other. -/
def wires (ms : List Message) : ByteArray := ms.foldr (fun m acc => m.wire ++ acc) ByteArray.empty

@[simp] theorem wires_nil : wires [] = ByteArray.empty := rfl

@[simp] theorem wires_cons (m : Message) (ms : List Message) :
    wires (m :: ms) = m.wire ++ wires ms :=
  rfl

theorem wires_append (a b : List Message) : wires (a ++ b) = wires a ++ wires b := by
  induction a with
  | nil => simp
  | cons m a ih => rw [List.cons_append, wires_cons, wires_cons, ih, ByteArray.append_assoc]

namespace Message

theorem size_wire (m : Message) : m.wire.size = m.size + 1 := by
  rw [← length_octets, Message.wire, octets_wire, List.length_append, length_octets]
  rfl

theorem trimmed_bytes (m : Message) : trimmed m.bytes = m.bytes := by
  have h := trimmed_of_parts blanks_empty m.snug blanks_empty
  rwa [ByteArray.empty_append, ByteArray.append_empty] at h

theorem ofLine?_line (m : Message) : ofLine? m.line = some m := ofLine?_of_trimmed m.trimmed_bytes

end Message

theorem Line.ofBytes?_bytes (l : Line) : Line.ofBytes? l.bytes = some l := by
  unfold ofBytes?
  have hspec := firstFrom_spec (· == newline) l.bytes l.bytes.size 0
  rw [dif_neg]
  intro hlt
  have hfound := hspec.2.2.1 (by omega)
  refine l.unbroken (mem_octets_iff.mpr ⟨_, hlt, ?_⟩)
  simpa using hfound

theorem Line.bytes_of_ofBytes? {b : ByteArray} {l : Line} (h : ofBytes? b = some l) :
    l.bytes = b := by
  unfold ofBytes? at h
  split at h
  · cases h
  · rw [Option.some.injEq] at h
    rw [← h]

theorem Message.bytes_of_ofBytes {payload : ByteArray} {m : Message} (h : ofBytes payload = .ok m) :
    m.bytes = trimmed payload := by
  unfold ofBytes at h
  cases hline : Line.ofBytes? payload with
  | none =>
      rw [hline] at h
      cases h
  | some l =>
      cases hm : ofLine? l with
      | none =>
          simp only [hline, hm] at h
          cases h
      | some m' =>
          simp only [hline, hm] at h
          cases h
          rw [bytes_of_ofLine? hm, Line.bytes_of_ofBytes? hline]

namespace Buffer

/-- Once room for a line and its newline is reserved, neither of the two appends
    is refused. -/
theorem appends_after_reserve {b roomy : Buffer} {l : Line}
    (h : b.reserve (l.size + 1) = .ok roomy) :
    ∃ unended ended, roomy.append l.bytes = .ok unended ∧
      unended.append (ByteArray.empty.push newline) = .ok ended ∧
      ended.bytes = b.bytes ++ l.wire ∧ ended.limit = b.limit := by
  rcases b.reserve_cases (l.size + 1) with ⟨_, herr⟩ | ⟨hroom, roomy', hok, hbytes, hlimit⟩
  · rw [herr] at h
    cases h
  · rw [hok, Except.ok.injEq] at h
    subst h
    have hroomy : roomy'.size = b.size := congrArg ByteArray.size hbytes
    have hline : l.bytes.size = l.size := rfl
    rcases roomy'.append_cases l.bytes with ⟨hfull, _⟩ | ⟨_, unended, hun, hunbytes, hunlimit⟩
    · exact absurd hfull (by omega)
    have hunsize : unended.size = b.size + l.size := by
      unfold size
      rw [hunbytes, ByteArray.size_append, hbytes]
      rfl
    have hone : (ByteArray.empty.push newline).size = 1 := rfl
    rcases unended.append_cases (ByteArray.empty.push newline) with
      ⟨hfull, _⟩ | ⟨_, ended, hend, hendbytes, hendlimit⟩
    · exact absurd hfull (by omega)
    refine ⟨unended, ended, hun, hend, ?_, by omega⟩
    apply octets_injective
    rw [hendbytes, hunbytes, hbytes]
    simp only [octets_append, octets_wire, List.append_assoc]
    rfl

/-- A message goes to the end of a buffer as one line, or is refused because its
    bytes and the newline do not fit. -/
theorem appendLine_message_cases (b : Buffer) (m : Message) :
    ((wordBound ≤ b.size + (m.size + 1) ∨ b.limit < b.size + (m.size + 1)) ∧
      b.appendLine m.bytes = .error (.overflow ⟨b.size, m.size + 1, b.limit⟩)) ∨
    (¬ (wordBound ≤ b.size + (m.size + 1) ∨ b.limit < b.size + (m.size + 1)) ∧
      ∃ b', b.appendLine m.bytes = .ok (some b') ∧ b'.bytes = b.bytes ++ m.wire ∧
        b'.limit = b.limit) := by
  have hpos : m.bytes.size ≠ 0 := Nat.ne_of_gt m.nonempty
  have hline : Line.ofBytes? m.bytes = some m.line := m.line.ofBytes?_bytes
  have hsize : m.line.size = m.size := rfl
  unfold appendLine
  simp only [m.trimmed_bytes, if_neg hpos, hline, hsize]
  rcases b.reserve_cases (m.size + 1) with ⟨hfull, herr⟩ | ⟨hroom, roomy, hok, _⟩
  · left
    refine ⟨hfull, ?_⟩
    rw [herr]
  · right
    rcases appends_after_reserve hok with ⟨unended, ended, hun, hend, hbytes, hlimit⟩
    refine ⟨hroom, ended, ?_, hbytes, hlimit⟩
    simp only [hok, hun, hend]

end Buffer

/-- The records of messages written one after the other are their lines. -/
theorem split_wires (ms : List Message) : split (wires ms) = ⟨ms.map (·.line), Line.empty⟩ := by
  have hjoin : wires ms = Split.join ⟨ms.map (·.line), Line.empty⟩ := by
    induction ms with
    | nil => rfl
    | cons m ms ih =>
        rw [wires_cons, ih, List.map_cons, Split.join_cons]
        rfl
  rw [hjoin, split_join]

theorem messagesOf_lines (ms : List Message) : messagesOf (ms.map (·.line)) = ms := by
  unfold messagesOf
  induction ms with
  | nil => rfl
  | cons m ms ih => rw [List.map_cons, List.filterMap_cons, m.ofLine?_line, ih]

-- A message is made of a line exactly if trimming leaves something of it.
theorem messagesOf_bytes (ls : List Line) :
    (messagesOf ls).map Message.bytes
      = (ls.map fun l => trimmed l.bytes).filter fun text => text.size != 0 := by
  induction ls with
  | nil => rfl
  | cons l ls ih =>
      unfold messagesOf at ih ⊢
      cases hm : Message.ofLine? l with
      | none =>
          have hblank : (trimmed l.bytes).size = 0 := by
            rwa [size_trimmed_eq_zero_iff, ← Message.ofLine?_eq_none_iff_blanks]
          rw [List.filterMap_cons_none hm, ih, List.map_cons,
            List.filter_cons_of_neg (by simp [hblank])]
      | some m =>
          have hsome : (trimmed l.bytes).size ≠ 0 := by
            rw [← Message.bytes_of_ofLine? hm]
            exact Nat.ne_of_gt m.nonempty
          rw [List.filterMap_cons_some hm, List.map_cons, ih, Message.bytes_of_ofLine? hm,
            List.map_cons, List.filter_cons_of_pos (by simpa using hsome)]

/-- What has been read of the stream of some messages, wherever it was cut off
    and whatever the limit, is the first of them. -/
theorem messagesOf_within_prefix {limit : Nat} {a b : ByteArray} {ms : List Message}
    (h : a ++ b = wires ms) : messagesOf ((split a).within limit) <+: ms := by
  have hlines : (split a).lines <+: ms.map (·.line) := by
    have hall : (split (a ++ b)).lines = ms.map (·.line) := by rw [h, split_wires]
    rw [split_append, Split.lines_append] at hall
    exact ⟨_, hall⟩
  have hwithin : (split a).within limit <+: ms.map (·.line) :=
    (List.takeWhile_prefix _).trans hlines
  have hmsgs := hwithin.filterMap Message.ofLine?
  rwa [show (ms.map (·.line)).filterMap Message.ofLine? = ms from messagesOf_lines ms] at hmsgs

theorem messagesOf_of_fits {limit : Nat} {ms : List Message} (h : (split (wires ms)).Fits limit) :
    messagesOf ((split (wires ms)).within limit) = ms := by
  rw [Split.within_of_fits h, split_wires]
  exact messagesOf_lines ms

end LineChat
