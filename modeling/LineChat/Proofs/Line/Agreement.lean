import LineChat.Proofs.Line.Refusals
import LineChat.Proofs.Line.RoundTrip

/-!
# Three Ways to a Message

A payload is looked at in three ways, and all of them see the same.

Writing a line trims the whole payload once and then looks for a newline inside.
Reading the payload splits it at the newlines first and trims each piece. Making
a message looks for a newline before it trims. The orders matter, because a
newline is itself a blank: trimming may take newlines away that splitting
would have counted.

They agree because of where the bytes fall that are not blank. Of a payload only
blanks are trimmed away, and a blank beginning or end adds nothing but blank
lines and blanks to the lines next to it. So the lines of the payload are judged
by what is left of it. If that is nothing, all of them are blank. If it is one
line, the line it lies in is trimmed to it and the others are blank. If there is
a newline in it, its first byte lies before that newline and its last one
behind, neither is blank, and so two lines at least are not.

## Theorems

* `join_of_mem_all`: A line is a part of its stream.
* `split_push`: A stream that is ended with a newline.
* `messagesOf_of_blanks`, `messagesOf_of_message`, `messagesOf_of_broken`: The
  messages in a payload, by what trimming leaves of it.
* `ofBytes_unbroken`: A message that is made of a payload.
* `feed_payload`: A payload that is read.
* `normalisers_agree`: Writing, reading and making a message.
-/

namespace LineChat

/-! ## The lines of a payload -/

theorem Line.wire_eq (l : Line) : l.wire = l.bytes ++ ByteArray.empty.push newline := by
  apply octets_injective
  rw [octets_wire, octets_append]
  rfl

namespace Split

theorem all_append (s t : Split) : (s.append t).all = s.lines ++ s.rest.continued t.all := by
  rcases t with ⟨lines, rest⟩
  unfold append all
  cases lines with
  | nil => rfl
  | cons l ls => simp [Line.continued]

-- Behind the last newline stands the line that has not been ended.
theorem join_of_rest {s : Split} (h : s.lines ≠ []) :
    ∃ before, s.join = before ++ ByteArray.empty.push newline ++ s.rest.bytes := by
  rcases s with ⟨lines, rest⟩
  induction lines with
  | nil => exact absurd rfl h
  | cons l lines ih =>
      cases lines with
      | nil => exact ⟨l.bytes, by rw [join_cons, join_nil, Line.wire_eq]⟩
      | cons l' lines =>
          rcases ih (List.cons_ne_nil _ _) with ⟨before, hjoin⟩
          refine ⟨l.wire ++ before, ?_⟩
          rw [join_cons, hjoin]
          simp only [ByteArray.append_assoc]

/-- A line is a part of its stream. -/
theorem join_of_mem_all {s : Split} {l : Line} (h : l ∈ s.all) :
    ∃ before after, s.join = before ++ l.bytes ++ after := by
  rcases s with ⟨lines, rest⟩
  induction lines with
  | nil =>
      rw [List.mem_singleton.mp h]
      exact ⟨ByteArray.empty, ByteArray.empty,
        by rw [join_nil, ByteArray.empty_append, ByteArray.append_empty]⟩
  | cons first lines ih =>
      rw [join_cons]
      rcases List.mem_cons.mp h with rfl | hmore
      · refine ⟨ByteArray.empty, ByteArray.empty.push newline ++ join ⟨lines, rest⟩, ?_⟩
        rw [Line.wire_eq, ByteArray.empty_append, ByteArray.append_assoc]
      · rcases ih hmore with ⟨before, after, hjoin⟩
        refine ⟨first.wire ++ before, after, ?_⟩
        rw [hjoin, ByteArray.append_assoc, ByteArray.append_assoc, ByteArray.append_assoc]

theorem join_all (s : Split) : join ⟨s.all, Line.empty⟩ = s.join.push newline := by
  rcases s with ⟨lines, rest⟩
  induction lines with
  | nil => exact ByteArray.append_empty
  | cons l lines ih =>
      apply octets_injective
      have hoct := congrArg octets ih
      rw [show all ⟨l :: lines, rest⟩ = l :: all ⟨lines, rest⟩ from rfl, join_cons, join_cons,
        octets_append, hoct]
      simp [octets, ByteArray.data_push]

end Split

/-- A newline at its end makes all lines of a stream ended ones. -/
theorem split_push (b : ByteArray) : split (b.push newline) = ⟨(split b).all, Line.empty⟩ := by
  rw [← join_split b, ← Split.join_all, split_join, join_split]

theorem size_le_of_mem_all {b : ByteArray} {l : Line} (h : l ∈ (split b).all) :
    l.size ≤ b.size := by
  rcases Split.join_of_mem_all h with ⟨before, after, hjoin⟩
  rw [join_split] at hjoin
  rw [hjoin, ByteArray.size_append, ByteArray.size_append]
  unfold Line.size
  omega

-- No line of blanks is anything but blank.
theorem Blanks.of_mem_all {b : ByteArray} (h : Blanks b) {l : Line} (hl : l ∈ (split b).all) :
    Blanks l.bytes := by
  rcases Split.join_of_mem_all hl with ⟨before, after, hjoin⟩
  rw [join_split] at hjoin
  intro x hx
  refine h x ?_
  rw [hjoin, octets_append, octets_append]
  exact List.mem_append_left _ (List.mem_append_right _ hx)

theorem messagesOf_eq_nil {ls : List Line} (h : ∀ l ∈ ls, Blanks l.bytes) : messagesOf ls = [] := by
  unfold messagesOf
  rw [List.filterMap_eq_nil_iff]
  exact fun l hl => (Message.ofLine?_eq_none_iff_blanks l).mpr (h l hl)

theorem messagesOf_cons_of_not_blanks {l : Line} (h : ¬ Blanks l.bytes) (ls : List Line) :
    ∃ m, messagesOf (l :: ls) = m :: messagesOf ls := by
  cases hm : Message.ofLine? l with
  | none => exact absurd ((Message.ofLine?_eq_none_iff_blanks l).mp hm) h
  | some m => exact ⟨m, List.filterMap_cons_some hm⟩

/-! ## The messages of a payload -/

-- The lines in what trimming leaves, with blanks in front of the first and behind
-- the last.
theorem messagesOf_trimmed (payload : ByteArray) : ∃ before after : Line,
    Blanks before.bytes ∧ Blanks after.bytes ∧
      messagesOf (split payload).all = messagesOf (before.continued
        ((split (trimmed payload)).lines ++ [(split (trimmed payload)).rest.append after])) := by
  rcases trimmed_parts payload with ⟨front, back, hparts, hfront, hback⟩
  have hall : (split payload).all = (split front).lines ++ (split front).rest.continued
      ((split (trimmed payload)).lines ++ (split (trimmed payload)).rest.continued
        (split back).all) := by
    conv_lhs => rw [hparts, ByteArray.append_assoc, split_append, split_append]
    rw [Split.all_append, Split.all_append]
  have hlines : ∀ l ∈ (split front).lines, Blanks l.bytes := fun l hl =>
    hfront.of_mem_all (List.mem_append_left _ hl)
  cases hends : (split back).all with
  | nil => exact absurd hends (List.append_ne_nil_of_right_ne_nil _ (List.cons_ne_nil _ _))
  | cons first more =>
      have hfirst : Blanks first.bytes := hback.of_mem_all (hends ▸ List.mem_cons_self)
      have hmore : ∀ l ∈ more, Blanks l.bytes := fun l hl =>
        hback.of_mem_all (hends ▸ List.mem_cons_of_mem _ hl)
      refine ⟨(split front).rest, first,
        hfront.of_mem_all (List.mem_append_right _ List.mem_cons_self), hfirst, ?_⟩
      have hbehind : (split front).rest.continued ((split (trimmed payload)).lines
            ++ (split (trimmed payload)).rest.continued (first :: more))
          = (split front).rest.continued ((split (trimmed payload)).lines
            ++ [(split (trimmed payload)).rest.append first]) ++ more := by
        cases (split (trimmed payload)).lines <;> simp [Line.continued]
      rw [hall, hends, hbehind, messagesOf_append, messagesOf_append, messagesOf_eq_nil hlines,
        messagesOf_eq_nil hmore, List.nil_append, List.append_nil]

/-- Blanks hold no message, with however many newlines among them. -/
theorem messagesOf_of_blanks {payload : ByteArray} (h : Blanks payload) :
    messagesOf (split payload).all = [] :=
  messagesOf_eq_nil fun _ hl => h.of_mem_all hl

/-- A payload that is trimmed to a message holds it and no other. -/
theorem messagesOf_of_message {payload : ByteArray} {m : Message} (h : trimmed payload = m.bytes) :
    messagesOf (split payload).all = [m] := by
  rcases messagesOf_trimmed payload with ⟨before, after, hbefore, hafter, hmessages⟩
  have hone : split (trimmed payload) = ⟨[], m.line⟩ := by
    rw [h]
    exact split_join ⟨[], m.line⟩
  have hline : Message.ofLine? (before.append (m.line.append after)) = some m := by
    refine Message.ofLine?_of_trimmed ?_
    have hfound := trimmed_of_parts hbefore m.snug hafter
    rwa [ByteArray.append_assoc] at hfound
  rw [hmessages, hone]
  exact List.filterMap_cons_some hline

/-- A payload that still holds a newline after trimming holds two messages at
    least: neither its first line nor its last one is blank. -/
theorem messagesOf_of_broken {payload : ByteArray}
    (h : newline ∈ octets (trimmed payload)) : 2 ≤ (messagesOf (split payload).all).length := by
  have hsome : (trimmed payload).size ≠ 0 := by
    rw [← length_octets]
    exact Nat.ne_of_gt (List.length_pos_of_mem h)
  have hsnug := snug_trimmed hsome
  rcases messagesOf_trimmed payload with ⟨before, after, _, _, hmessages⟩
  have hjoin := join_split (trimmed payload)
  generalize split (trimmed payload) = parts at hmessages hjoin
  rcases parts with ⟨lines, rest⟩
  cases lines with
  | nil =>
      rw [← hjoin] at h
      exact absurd h rest.unbroken
  | cons first more =>
      have hfirst : ¬ Blanks (before.append first).bytes := by
        intro hblanks
        rw [← hjoin, Split.join_cons, Line.wire_eq] at hsnug
        refine hsnug.front ?_
          (blanks_append_iff.mpr ⟨(blanks_append_iff.mp hblanks).2, blanks_newline⟩)
        rw [ByteArray.size_append]
        exact Nat.add_pos_right _ (by decide)
      have hlast : ¬ Blanks (rest.append after).bytes := by
        intro hblanks
        rcases Split.join_of_rest (s := ⟨first :: more, rest⟩) (List.cons_ne_nil _ _) with
          ⟨front, hends⟩
        rw [← hjoin, hends, ByteArray.append_assoc] at hsnug
        refine hsnug.back ?_
          (blanks_append_iff.mpr ⟨blanks_newline, (blanks_append_iff.mp hblanks).1⟩)
        rw [ByteArray.size_append]
        exact Nat.add_pos_left (by decide) _
      rcases messagesOf_cons_of_not_blanks hfirst (more ++ [rest.append after]) with ⟨m, hm⟩
      rcases messagesOf_cons_of_not_blanks hlast [] with ⟨m', hm'⟩
      rw [hmessages, List.cons_append, Line.continued, hm, messagesOf_append, hm',
        List.length_cons, List.length_append, List.length_cons]
      omega

/-- Making a message of one line gives the one that is read from it. -/
theorem Message.ofBytes_unbroken {payload : ByteArray} (h : newline ∉ octets payload) :
    (∀ m, ofBytes payload = .ok m ↔ messagesOf (split payload).all = [m]) ∧
      (ofBytes payload = .error .emptyMessage ↔ messagesOf (split payload).all = []) := by
  let l : Line := ⟨payload, h⟩
  have hsplit : split payload = ⟨[], l⟩ := split_join ⟨[], l⟩
  have hline : Line.ofBytes? payload = some l := l.ofBytes?_bytes
  have hread : messagesOf (split payload).all = (ofLine? l).toList := by
    rw [hsplit]
    change messagesOf [l] = _
    unfold messagesOf
    cases hm : ofLine? l with
    | none => exact List.filterMap_cons_none hm
    | some m => exact List.filterMap_cons_some hm
  unfold ofBytes
  rw [hread, hline]
  cases hm : ofLine? l with
  | none => simp [hm]
  | some m => simp [hm]

/-- A payload that is ended with a newline is read by a framer that it fits. -/
theorem Framer.feed_payload {limit : Nat} (hlimit : limit < wordBound) {payload : ByteArray}
    (hfits : payload.size ≤ limit) :
    ((ofLimit limit).feed (payload.push newline)).refusal = none ∧
      ((ofLimit limit).feed (payload.push newline)).messages.toList
        = messagesOf (split payload).all := by
  have hlines : ∀ l ∈ (ofLimit limit).pending.continued (split payload).all, l.size ≤ limit := by
    rw [show (ofLimit limit).pending = Line.empty from rfl, Line.continued_empty]
    exact fun l hl => (size_le_of_mem_all hl).trans hfits
  have hread := (ofLimit limit).feedLines_fitting (split payload).all hlimit #[] hlines
  rw [show (ofLimit limit).pending = Line.empty from rfl, Line.continued_empty] at hread
  unfold feed feedInto
  rw [split_push]
  exact ⟨hread.1, hread.2.1⟩

-- What comes behind the same bytes as one line tells which message it is.
theorem Message.eq_of_append_wire {before : ByteArray} {m m' : Message}
    (h : before ++ m.wire = before ++ m'.wire) : m = m' := by
  have hoct := congrArg octets h
  rw [octets_append, octets_append, Message.wire, Message.wire, octets_wire, octets_wire] at hoct
  exact ext (octets_injective (List.append_cancel_right (List.append_cancel_left hoct)))

/-- Any payload, a buffer with room for what is left of it after trimming, and a
    fresh framer that it fits. Writing the payload comes to nothing if no message
    is read from it with a newline behind, to the line of one message if exactly
    that one is read, and to a refusal because of a newline inside if two are read
    or more. If there is no newline in it, making a message of it gives the one
    that is read, or says that it is empty if none is. -/
theorem normalisers_agree (payload : ByteArray) (limit : Nat) (hlimit : limit < wordBound)
    (hfits : payload.size ≤ limit) (dst : Buffer) (hdst : dst.limit < wordBound)
    (hroom : dst.size + ((trimmed payload).size + 1) ≤ dst.limit) :
    let fed := (Framer.ofLimit limit).feed (payload.push newline)
    let ms := fed.messages.toList
    fed.refusal = none ∧
    (dst.appendLine payload = .ok none ↔ ms = []) ∧
    (∀ m : Message, (∃ ended, dst.appendLine payload = .ok (some ended) ∧
      ended.bytes = dst.bytes ++ m.wire) ↔ ms = [m]) ∧
    (dst.appendLine payload = .error .embeddedNewline ↔ 2 ≤ ms.length) ∧
    (newline ∉ octets payload →
      (∀ m, Message.ofBytes payload = .ok m ↔ ms = [m]) ∧
      (Message.ofBytes payload = .error .emptyMessage ↔ ms = [])) := by
  intro fed ms
  rcases Framer.feed_payload hlimit hfits with ⟨hnone, hread⟩
  have hms : ms = messagesOf (split payload).all := hread
  have hmake := @Message.ofBytes_unbroken payload
  refine ⟨hnone, ?_⟩
  rw [hms]
  rcases dst.appendLine_cases payload with ⟨hblank, hskip⟩ | ⟨hbroken, herr⟩ | ⟨m, hm, hsame⟩
  · have hempty := messagesOf_of_blanks (size_trimmed_eq_zero_iff.mp hblank)
    rw [hskip, hempty]
    rw [hempty] at hmake
    exact ⟨by simp, by simp, by simp, hmake⟩
  · have hlength := messagesOf_of_broken hbroken
    rw [herr]
    refine ⟨⟨nofun, fun hnil => ?_⟩, fun m => ⟨nofun, fun hone => ?_⟩, by simpa using hlength,
      hmake⟩
    · rw [hnil] at hlength
      exact absurd hlength (by decide)
    · rw [hone] at hlength
      exact absurd hlength (by simp)
  · have hmessage := messagesOf_of_message hm.symm
    have hsize : (trimmed payload).size = m.size := congrArg ByteArray.size hm.symm
    rw [hsize] at hroom
    rcases dst.appendLine_message_cases m with ⟨hfull, _⟩ | ⟨_, ended, hok, hbytes, _⟩
    · exact absurd hfull (by omega)
    · rw [hmessage] at hmake ⊢
      rw [hsame, hok]
      refine ⟨by simp, fun m' => ⟨?_, ?_⟩, by simp, hmake⟩
      · rintro ⟨ended', hsome, hbytes'⟩
        cases hsome
        rw [Message.eq_of_append_wire (hbytes.symm.trans hbytes')]
      · intro hone
        rw [List.cons.injEq] at hone
        exact ⟨ended, rfl, by rw [hbytes, hone.1]⟩

/-- Three payloads for a framer with a limit of nine, and a buffer of eight bytes
    with one in it. The first payload holds one message with newlines on both
    sides, the second one two with a blank line between them, and the third one
    none, and no newline either. -/
theorem normalisers_agree_on_three_payloads :
    let dst : Buffer := ⟨8, ⟨#[120]⟩, 1, by decide⟩
    let one := "\n \n a b\t\n".toUTF8
    let two := " a\n \nb\n".toUTF8
    let blank := " \t ".toUTF8
    let read := fun payload : ByteArray =>
      ((Framer.ofLimit 9).feed (payload.push newline)).messages.toList
    9 < wordBound ∧ dst.limit < wordBound ∧
      (∀ payload ∈ [one, two, blank],
        payload.size ≤ 9 ∧ dst.size + ((trimmed payload).size + 1) ≤ dst.limit) ∧
      newline ∉ octets blank ∧
      (∃ m ended, read one = [m] ∧ m.bytes = "a b".toUTF8 ∧
        dst.appendLine one = .ok (some ended) ∧ ended.bytes = dst.bytes ++ m.wire) ∧
      (read two).map Message.bytes = ["a".toUTF8, "b".toUTF8] ∧
      dst.appendLine two = .error .embeddedNewline ∧
      read blank = [] ∧ dst.appendLine blank = .ok none ∧
      Message.ofBytes blank = .error .emptyMessage := by
  intro dst one two blank read
  have hlimit : 9 < wordBound := by decide
  have hdst : dst.limit < wordBound := by decide
  have hroom : ∀ payload ∈ [one, two, blank],
      payload.size ≤ 9 ∧ dst.size + ((trimmed payload).size + 1) ≤ dst.limit := by decide +kernel
  have hline : newline ∉ octets blank := by decide +kernel
  have hagree := fun payload h => normalisers_agree payload 9 hlimit (hroom payload h).1 dst hdst
    (hroom payload h).2
  rcases hagree one (by simp) with ⟨_, _, hone, _, _⟩
  rcases hagree two (by simp) with ⟨_, _, _, htwo, _⟩
  rcases hagree blank (by simp) with ⟨_, hskip, _, _, hmake⟩
  have hread : (read one).map Message.bytes = ["a b".toUTF8] := by decide +kernel
  have hboth : (read two).map Message.bytes = ["a".toUTF8, "b".toUTF8] := by decide +kernel
  have hempty : read blank = [] := by decide +kernel
  rcases List.map_eq_singleton_iff.mp hread with ⟨m, hm, hbytes⟩
  rcases (hone m).mpr hm with ⟨ended, hok, hended⟩
  have hlength : 2 ≤ (read two).length := by
    rw [← List.length_map, hboth]
    decide
  exact ⟨hlimit, hdst, hroom, hline, ⟨m, ended, hm, hbytes, hok, hended⟩, hboth,
    htwo.mpr hlength, hempty, hskip.mpr hempty, (hmake hline).2.mpr hempty⟩

end LineChat
