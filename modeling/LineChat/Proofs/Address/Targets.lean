import LineChat.Address.Target
import LineChat.Proofs.Address.Reading

/-!
# Targets and Their Ports

What comes of a target, and which port its addresses have.

A target is read twice. Once it is cut at its last colon, and what stands behind
must be a number. Then the whole of it is read as a socket address, by a grammar
that knows nothing of that cut: it has colons and dots of its own, and the port
is what is left at the end. The two agree because of what a reader leaves
(`Consumes`). Every reader takes something off the front, so the text from the
last colon on is the end of the target; the port is read off nothing but digits,
so no colon comes later; and something stands before it, since no socket address
begins with a colon. So a target that is a socket address is cut where its port
begins (`hasPort_of_ofText?`).

The first reading is the wider one. It admits a plus sign and a host that is no
address in the grammar, and it gives the port to whatever a look-up finds. How
names are looked up is left open: the laws hold for every `Directory`.

## Main definitions

* `Consumes`: A reader leaves an end of the text.
* `HasPort`: A text is a host with a port behind the last colon.

## Theorems

* `hasPort_of_ofText?`: A socket address has its port behind the last colon.
* `ofText?_v4`, `ofText?_v6`: The text of a socket address is read as that one.
* `cutAtLast_append`, `cutAtLast_eq_some`: Where a text is cut.
* `resolve_of_ofText?`, `resolve_of_ofText?_eq_none`: What comes of a socket address,
  and of any other target.
* `resolve_cases`: How a target ends.
* `resolved_addresses_carry_port`: Refusals, ports, and standard texts.
-/

namespace LineChat

namespace Address

open Text

/-- What a reader leaves is the end of what it was given. -/
def Consumes {α : Type} (scan : Scan α) : Prop :=
  ∀ {cs rest : List Char} {a : α}, scan cs = some (a, rest) → rest <:+ cs

theorem readChar_eq_some {c : Char} {cs rest : List Char} {u : Unit}
    (h : readChar c cs = some (u, rest)) : cs = c :: rest := by
  unfold readChar at h
  split at h
  · rename_i d tail
    rw [Option.ite_none_right_eq_some, Option.some.injEq, Prod.mk.injEq] at h
    rw [h.1, h.2.2]
  · cases h

theorem consumes_readChar (c : Char) : Consumes (readChar c) := by
  intro cs rest u h
  rw [readChar_eq_some h]
  exact List.suffix_cons c rest

/-- A number is read off digits, and they are all of it. -/
theorem readNumber_eq_some {radix maxDigits bound n : Nat} {leadingZeros : Bool}
    {cs rest : List Char} (h : readNumber radix maxDigits bound leadingZeros cs = some (n, rest)) :
    ∃ digits, cs = digits ++ rest ∧ digits? radix digits = some n ∧ n < bound := by
  unfold readNumber at h
  dsimp only at h
  refine ⟨cs.takeWhile fun c => (digitValue? radix c).isSome, ?_⟩
  split at h
  · cases h
  · split at h
    · cases h
    · split at h
      · rename_i m hm
        rw [Option.ite_none_right_eq_some, Option.some.injEq, Prod.mk.injEq] at h
        rcases h with ⟨hbound, rfl, rfl⟩
        exact ⟨List.takeWhile_append_dropWhile.symm, hm, hbound⟩
      · cases h

theorem consumes_readNumber (radix maxDigits bound : Nat) (leadingZeros : Bool) :
    Consumes (readNumber radix maxDigits bound leadingZeros) := by
  intro cs rest n h
  rcases readNumber_eq_some h with ⟨digits, rfl, _⟩
  exact List.suffix_append digits rest

theorem consumes_readIpv4 : Consumes readIpv4 := by
  intro cs rest ip h
  have hbyte := @consumes_readNumber 10 3 256 false
  have hdot := @consumes_readChar '.'
  simp only [readIpv4, Option.bind_eq_bind, Option.pure_def, Option.bind_eq_some_iff,
    Option.some.injEq, Prod.mk.injEq] at h
  rcases h with ⟨⟨a, cs₁⟩, ha, ⟨_, cs₂⟩, h₁, ⟨b, cs₃⟩, hb, ⟨_, cs₄⟩, h₂, ⟨c, cs₅⟩, hc, ⟨_, cs₆⟩, h₃,
    ⟨d, cs₇⟩, hd, _, rfl⟩
  exact (hbyte hd).trans ((hdot h₃).trans ((hbyte hc).trans ((hdot h₂).trans ((hbyte hb).trans
    ((hdot h₁).trans (hbyte ha))))))

theorem readGroups_suffix (n : Nat) (found : List UInt16) (cs : List Char) :
    (readGroups n found cs).2 <:+ cs := by
  induction n generalizing found cs with
  | zero => exact List.suffix_refl cs
  | succ n ih =>
      rw [readGroups]
      dsimp only
      split
      · exact List.suffix_refl cs
      · rename_i inner hstart
        have hinner : inner <:+ cs := by
          split at hstart
          · obtain rfl : cs = inner := Option.some.inj hstart
            exact List.suffix_refl cs
          · rcases Option.map_eq_some_iff.mp hstart with ⟨⟨u, rest⟩, hcolon, rfl⟩
            exact consumes_readChar ':' hcolon
        split
        · rename_i v4 rest hv4
          rw [Option.ite_none_right_eq_some] at hv4
          exact (consumes_readIpv4 hv4.2).trans hinner
        · split
          · rename_i g rest hg
            exact (ih _ rest).trans ((consumes_readNumber _ _ _ _ hg).trans hinner)
          · exact List.suffix_refl cs

theorem consumes_readIpv6 : Consumes readIpv6 := by
  intro cs rest ip h
  unfold readIpv6 at h
  have hhead := readGroups_suffix 8 [] cs
  generalize readGroups 8 [] cs = head at h hhead
  dsimp only at h
  split at h
  · rw [Option.some.injEq, Prod.mk.injEq] at h
    exact h.2 ▸ hhead
  · split at h
    · cases h
    · simp only [Option.bind_eq_bind, Option.bind_eq_some_iff] at h
      rcases h with ⟨⟨_, cs₁⟩, h₁, ⟨_, cs₂⟩, h₂, h⟩
      have htail := readGroups_suffix (7 - head.1.list.length) [] cs₂
      generalize readGroups (7 - head.1.list.length) [] cs₂ = tail at h htail
      split at h
      · rw [Option.some.injEq, Prod.mk.injEq] at h
        rw [← h.2]
        have hcolons := (consumes_readChar ':' h₂).trans (consumes_readChar ':' h₁)
        exact htail.trans (hcolons.trans hhead)
      · cases h

end Address

namespace SocketAddress

open Address Text

theorem consumes_readScope : Consumes readScope := by
  intro cs rest scope h
  unfold readScope at h
  split at h
  · rw [Option.some.injEq, Prod.mk.injEq] at h
    obtain ⟨-, rfl⟩ := h
    exact List.suffix_refl cs
  · rename_i u inner hpercent
    have hinner := consumes_readChar '%' hpercent
    split at h
    · rename_i n behind hn
      rw [Option.some.injEq, Prod.mk.injEq] at h
      rw [← h.2]
      exact (consumes_readNumber _ _ _ _ hn).trans hinner
    · rw [Option.some.injEq, Prod.mk.injEq] at h
      obtain ⟨-, rfl⟩ := h
      exact List.suffix_refl cs

/-- A port that is read to the end of the text is the number that the text is. -/
theorem unsigned?_of_readPort {cs : List Char} {p : UInt16} (h : readPort cs = some (p, [])) :
    unsigned? 65536 cs = some p.toNat ∧ ':' ∉ cs := by
  simp only [readPort, Option.bind_eq_bind, Option.pure_def, Option.bind_eq_some_iff,
    Option.some.injEq, Prod.mk.injEq] at h
  rcases h with ⟨⟨n, rest⟩, hn, rfl, hrest⟩
  simp only at hrest
  subst hrest
  rcases readNumber_eq_some hn with ⟨digits, hcs, hdigits, hbound⟩
  rw [List.append_nil] at hcs
  subst hcs
  rcases digits?_eq_some_iff.mp hdigits with ⟨zeros, hzeros⟩
  have hport : (UInt16.ofNat n).toNat = n := UInt16.toNat_ofNat_of_lt' hbound
  refine ⟨unsigned?_eq_some_iff.mpr ⟨⟨[], zeros, Or.inl rfl, ?_⟩, ?_⟩, fun hcolon => ?_⟩
  · rw [hport]
    exact hzeros
  · rw [hport]
    exact hbound
  · exact absurd (isDigit_of_digits? hdigits hcolon) (by decide)

/-- A text is a host with a port behind the last colon. -/
def HasPort (cs : List Char) (p : Nat) : Prop :=
  ∃ host port, cs = host ++ ':' :: port ∧ ':' ∉ port ∧ host ≠ [] ∧ Decimal p port ∧ p < 65536

theorem hasPort_of_suffix {cs port : List Char} {p : UInt16} (hport : readPort port = some (p, []))
    (hsuffix : ':' :: port <:+ cs) (hhost : cs ≠ ':' :: port) : HasPort cs p.toNat := by
  rcases unsigned?_of_readPort hport with ⟨hnumber, hcolon⟩
  rcases unsigned?_eq_some_iff.mp hnumber with ⟨hdecimal, hbound⟩
  rcases hsuffix with ⟨host, rfl⟩
  refine ⟨host, port, rfl, hcolon, ?_, hdecimal, hbound⟩
  rintro rfl
  exact hhost rfl

theorem hasPort_of_readV4 {cs : List Char} {a : SocketAddress} (h : readV4 cs = some (a, [])) :
    HasPort cs a.port.toNat := by
  simp only [readV4, Option.bind_eq_bind, Option.pure_def, Option.bind_eq_some_iff,
    Option.some.injEq, Prod.mk.injEq] at h
  rcases h with ⟨⟨ip, cs₁⟩, hip, ⟨_, cs₂⟩, hcolon, ⟨p, cs₃⟩, hp, rfl, hrest⟩
  simp only at hip hcolon hp hrest
  subst hrest
  have hcs₁ := readChar_eq_some hcolon
  subst hcs₁
  refine hasPort_of_suffix hp (consumes_readIpv4 hip) fun hcs => ?_
  rw [hcs, readIpv4_of_ends (ends_cons (by decide))] at hip
  cases hip

theorem hasPort_of_readV6 {cs : List Char} {a : SocketAddress} (h : readV6 cs = some (a, [])) :
    HasPort cs a.port.toNat := by
  simp only [readV6, Option.bind_eq_bind, Option.pure_def, Option.bind_eq_some_iff,
    Option.some.injEq, Prod.mk.injEq] at h
  rcases h with ⟨⟨_, cs₁⟩, hopen, ⟨ip, cs₂⟩, hip, ⟨scope, cs₃⟩, hscope, ⟨_, cs₄⟩, hclose,
    ⟨_, cs₅⟩, hcolon, ⟨p, cs₆⟩, hp, rfl, hrest⟩
  simp only at hopen hip hscope hclose hcolon hp hrest
  subst hrest
  have hcs := readChar_eq_some hopen
  have hcs₄ := readChar_eq_some hcolon
  subst hcs hcs₄
  have hsuffix := (consumes_readChar ']' hclose).trans
    ((consumes_readScope hscope).trans (consumes_readIpv6 hip))
  refine hasPort_of_suffix hp (hsuffix.trans (List.suffix_cons '[' cs₁)) fun hcs => ?_
  exact absurd (List.cons.inj hcs).1 (by decide)

/-- A socket address in the strict grammar has its port behind the last colon. -/
theorem hasPort_of_ofText? {s : String} {a : SocketAddress} (h : ofText? s = some a) :
    HasPort s.toList a.port.toNat := by
  unfold ofText? at h
  split at h
  · rename_i b hb
    rw [← Option.some.inj h]
    exact hasPort_of_readV4 hb
  · split at h
    · rename_i b hb
      rw [← Option.some.inj h]
      exact hasPort_of_readV6 hb
    · cases h

theorem readPort_toDigits (p : UInt16) : readPort (Nat.toDigits 10 p.toNat) = some (p, []) := by
  have hlt : p.toNat < 65536 := p.toNat_lt
  have hread : readNumber 10 (Nat.toDigits 10 p.toNat).length 65536 true
      (Nat.toDigits 10 p.toNat) = some (p.toNat, []) := by
    have h := readNumber_toDigits true (by decide) (by decide) hlt (Nat.le_refl _) (ends_nil 10)
    rwa [List.append_nil] at h
  unfold readPort
  rw [hread]
  simp

/-- The text of a version 4 socket address is read as that address. -/
theorem ofText?_v4 (ip : Ipv4) (p : UInt16) : ofText? (v4 ip p).text = some (v4 ip p) := by
  have htext : (v4 ip p).text.toList = ip.text.toList ++ ':' :: Nat.toDigits 10 p.toNat := by
    unfold text
    simp
  have hread : readV4 (ip.text.toList ++ ':' :: Nat.toDigits 10 p.toNat) = some (v4 ip p, []) := by
    have hcolon : Ends 10 (':' :: Nat.toDigits 10 p.toNat) := ends_cons (by decide)
    unfold readV4
    simp only [readIpv4_text ip hcolon, readChar_cons, readPort_toDigits, Option.bind_eq_bind,
      Option.bind_some, Option.pure_def]
  unfold ofText?
  rw [htext, hread]

/-- So is that of a version 6 socket address without a scope. -/
theorem ofText?_v6 (ip : Ipv6) (p : UInt16) : ofText? (v6 ip p 0).text = some (v6 ip p 0) := by
  have htext : (v6 ip p 0).text.toList
      = '[' :: (ip.text.toList ++ ']' :: ':' :: Nat.toDigits 10 p.toNat) := by
    unfold text
    simp
  have hnot : ∀ cs, readV4 ('[' :: cs) = none := by
    intro cs
    unfold readV4
    rw [readIpv4_of_ends (ends_cons (by decide))]
    rfl
  have hscope : ∀ cs, readScope (']' :: cs) = some (0, ']' :: cs) := by
    intro cs
    unfold readScope
    rw [readChar_of_ne (by decide)]
  have hread : readV6 ('[' :: (ip.text.toList ++ ']' :: ':' :: Nat.toDigits 10 p.toNat))
      = some (v6 ip p 0, []) := by
    unfold readV6
    simp only [readChar_cons, readIpv6_text, hscope, readPort_toDigits, Option.bind_eq_bind,
      Option.bind_some, Option.pure_def]
  unfold ofText?
  rw [htext, hnot, hread]

end SocketAddress

theorem cutAtLast_eq_none_iff {c : Char} {cs : List Char} : cutAtLast c cs = none ↔ c ∉ cs := by
  induction cs with
  | nil => simp [cutAtLast]
  | cons x cs ih =>
      rw [cutAtLast, List.mem_cons, not_or, ← ih]
      cases cutAtLast c cs with
      | some parts => simp
      | none => simp [eq_comm]

/-- The cut is at the last of the characters. -/
theorem cutAtLast_append {c : Char} (before : List Char) {behind : List Char} (h : c ∉ behind) :
    cutAtLast c (before ++ c :: behind) = some (before, behind) := by
  induction before with
  | nil =>
      rw [List.nil_append, cutAtLast, cutAtLast_eq_none_iff.mpr h]
      exact if_pos rfl
  | cons x before ih => rw [List.cons_append, cutAtLast, ih]

theorem cutAtLast_eq_some {c : Char} {cs before behind : List Char}
    (h : cutAtLast c cs = some (before, behind)) : cs = before ++ c :: behind ∧ c ∉ behind := by
  induction cs generalizing before with
  | nil => cases h
  | cons x cs ih =>
      rw [cutAtLast] at h
      split at h
      · rename_i front back hcut
        rw [Option.some.injEq, Prod.mk.injEq] at h
        rcases h with ⟨rfl, rfl⟩
        rcases ih hcut with ⟨rfl, hback⟩
        exact ⟨rfl, hback⟩
      · rename_i hcut
        rw [Option.ite_none_right_eq_some, Option.some.injEq, Prod.mk.injEq] at h
        rcases h with ⟨rfl, rfl, rfl⟩
        exact ⟨rfl, cutAtLast_eq_none_iff.mp hcut⟩

open SocketAddress Text

theorem hasPort_iff {cs : List Char} {p : Nat} :
    HasPort cs p ↔ ∃ host port, cutAtLast ':' cs = some (host, port) ∧ host ≠ [] ∧
      unsigned? 65536 port = some p := by
  constructor
  · rintro ⟨host, port, rfl, hcolon, hhost, hdecimal, hbound⟩
    exact ⟨host, port, cutAtLast_append host hcolon, hhost,
      unsigned?_eq_some_iff.mpr ⟨hdecimal, hbound⟩⟩
  · rintro ⟨host, port, hcut, hhost, hport⟩
    rcases cutAtLast_eq_some hcut with ⟨hcs, hcolon⟩
    rcases unsigned?_eq_some_iff.mp hport with ⟨hdecimal, hbound⟩
    exact ⟨host, port, hcs, hcolon, hhost, hdecimal, hbound⟩

-- A text without a colon, without a host, or without a number has no port.
theorem not_hasPort {cs : List Char}
    (h : ':' ∉ cs ∨ (∃ port, cs = ':' :: port ∧ ':' ∉ port) ∨
      ∃ host port, cs = host ++ ':' :: port ∧ ':' ∉ port ∧ ∀ p < 65536, ¬ Decimal p port)
    (p : Nat) : ¬ HasPort cs p := by
  intro hport
  rcases hasPort_iff.mp hport with ⟨host, port, hcut, hhost, hnumber⟩
  rcases h with hnone | ⟨behind, rfl, hbehind⟩ | ⟨before, behind, rfl, hbehind, hnot⟩
  · rw [cutAtLast_eq_none_iff.mpr hnone] at hcut
    cases hcut
  · have hsame := cutAtLast_append [] hbehind
    rw [List.nil_append, hcut, Option.some.injEq, Prod.mk.injEq] at hsame
    exact hhost hsame.1
  · rw [cutAtLast_append before hbehind, Option.some.injEq, Prod.mk.injEq] at hcut
    rcases unsigned?_eq_some_iff.mp hnumber with ⟨hdecimal, hbound⟩
    exact hnot p hbound (hcut.2 ▸ hdecimal)

/-- A target that is a socket address stands for itself. -/
theorem resolve_of_ofText? {names : Directory} {target : String} {a : SocketAddress}
    (h : ofText? target = some a) : resolve names target = .ok [a] := by
  rcases hasPort_iff.mp (hasPort_of_ofText? h) with ⟨host, port, hcut, hhost, hport⟩
  have hsome : host.isEmpty = false := by simpa using hhost
  unfold resolve
  simp only [hcut, hsome, hport, h, Bool.false_eq_true, if_false]

@[simp] theorem SocketAddress.port_ofIp (ip : Address.IpAddress) (p : UInt16) (scope : UInt32) :
    (ofIp ip p scope).port = p := by
  cases ip <;> rfl

theorem port_of_mem_map_ofIp {p : Nat} (hp : p < 65536) (ips : List Address.IpAddress)
    (scope : UInt32) : ∀ a ∈ ips.map fun ip => ofIp ip (UInt16.ofNat p) scope, a.port.toNat = p := by
  intro a ha
  rcases List.mem_map.mp ha with ⟨ip, _, rfl⟩
  rw [port_ofIp]
  exact UInt16.toNat_ofNat_of_lt' hp

/-- What is found for a target that is no socket address itself carries the port
    that was cut off. -/
theorem resolve_of_ofText?_eq_none {names : Directory} {target : String}
    {addresses : List SocketAddress} (htext : ofText? target = none)
    (h : resolve names target = .ok addresses) :
    ∃ p, addresses ≠ [] ∧ HasPort target.toList p ∧ ∀ a ∈ addresses, a.port.toNat = p := by
  unfold resolve at h
  split at h
  · cases h
  · rename_i host port hcut
    split at h
    · cases h
    · rename_i hhost
      split at h
      · cases h
      · rename_i p hp
        have hport : HasPort target.toList p :=
          hasPort_iff.mpr ⟨host, port, hcut, by simpa using hhost, hp⟩
        have hall := port_of_mem_map_ofIp (unsigned?_lt hp)
        -- What is left are a host that is a number, and names that are known.
        simp only [htext] at h
        split at h
        · cases h
        · split at h
          · rename_i ip scope _
            rw [← Except.ok.inj h]
            exact ⟨p, List.cons_ne_nil _ _, hport, hall [ip] scope⟩
          · split at h
            · cases h
            · cases h
            · rename_i ips hsome _
              rw [← Except.ok.inj h]
              exact ⟨p, mt List.map_eq_nil_iff.mp hsome, hport, hall ips 0⟩

/-- A target is refused, or it has a port that all of its addresses carry. -/
theorem resolve_cases (names : Directory) (target : String) :
    (∃ reason, resolve names target = .error (.badAddress target reason)) ∨
    ∃ addresses p, resolve names target = .ok addresses ∧ addresses ≠ [] ∧
      HasPort target.toList p ∧ ∀ a ∈ addresses, a.port.toNat = p := by
  cases hanswer : resolve names target with
  | error e =>
      left
      rcases resolve_error hanswer with ⟨reason, rfl⟩
      exact ⟨reason, rfl⟩
  | ok addresses =>
      right
      cases htext : ofText? target with
      | some a =>
          rw [resolve_of_ofText? htext, Except.ok.injEq] at hanswer
          subst hanswer
          exact ⟨[a], a.port.toNat, rfl, List.cons_ne_nil _ _, hasPort_of_ofText? htext,
            List.forall_mem_singleton.mpr rfl⟩
      | none =>
          rcases resolve_of_ofText?_eq_none htext hanswer with ⟨p, hsome, hport, hall⟩
          exact ⟨addresses, p, rfl, hsome, hport, hall⟩

/-- Names are looked up in any way. The only failure is a bad address with the
    target in it, and it comes whenever the target has no colon, nothing before
    its last colon, or something behind it that is no numeral of a port. What
    comes otherwise is at least one address, and all of them carry the port that
    the target has behind its last colon. The standard text of a socket address,
    without a scope in version 6, stands for that address alone. -/
theorem resolved_addresses_carry_port (names : Directory) :
    (∀ target : String,
      (∀ e, resolve names target = .error e → ∃ reason, e = .badAddress target reason) ∧
      ((':' ∉ target.toList ∨
          (∃ port, target.toList = ':' :: port ∧ ':' ∉ port) ∨
          ∃ host port, target.toList = host ++ ':' :: port ∧ ':' ∉ port ∧
            ∀ p < 65536, ¬ Text.Decimal p port) →
        ∃ reason, resolve names target = .error (.badAddress target reason)) ∧
      ∀ addresses, resolve names target = .ok addresses →
        addresses ≠ [] ∧
        ∃ host port p, target.toList = host ++ ':' :: port ∧ ':' ∉ port ∧ Text.Decimal p port ∧
          ∀ a ∈ addresses, a.port.toNat = p) ∧
    (∀ ip p, resolve names (SocketAddress.v4 ip p).text = .ok [.v4 ip p]) ∧
    ∀ ip p, resolve names (SocketAddress.v6 ip p 0).text = .ok [.v6 ip p 0] := by
  refine ⟨fun target => ⟨fun e => resolve_error, ?_, ?_⟩,
    fun ip p => resolve_of_ofText? (ofText?_v4 ip p),
    fun ip p => resolve_of_ofText? (ofText?_v6 ip p)⟩
  · intro hbad
    rcases resolve_cases names target with hrefused | ⟨_, p, _, _, hport, _⟩
    · exact hrefused
    · exact absurd hport (not_hasPort hbad p)
  · intro addresses h
    rcases resolve_cases names target with ⟨reason, herr⟩ | ⟨_, p, hok, hsome, hport, hall⟩
    · rw [herr] at h
      cases h
    · rw [hok, Except.ok.injEq] at h
      rcases hport with ⟨host, port, htarget, hcolon, _, hdecimal, _⟩
      exact ⟨h ▸ hsome, host, port, p, htarget, hcolon, hdecimal, h ▸ hall⟩

-- A single letter is no number, so it has to be looked up.
theorem numericHost?_letter : Address.numericHost? "h" = none := by
  have hparts : Address.dotParts "h" = [['h']] := by
    unfold Address.dotParts String.splitOn
    rw [if_neg (by decide), String.splitOnAux, if_neg (by decide), if_neg (by decide),
      String.splitOnAux, if_pos (by decide)]
    rfl
  have hold : Address.oldIpv4? "h" = none := by
    unfold Address.oldIpv4?
    rw [hparts]
    rfl
  have hread : Address.readIpv6 "h".toList = none := by decide
  unfold Address.numericHost?
  rw [hold, hread]

/-- A name with two addresses: both carry the port, which is written with a plus
    sign and a zero. A port that fits no word is refused before the name is
    looked up. -/
theorem resolved_addresses_carry_port_of_name :
    let home : Address.IpAddress := .v4 ⟨127, 0, 0, 1⟩
    let near : Address.IpAddress := .v6 ⟨[0, 0, 0, 0, 0, 0, 0, 1], rfl⟩
    let names : Directory := fun name =>
      if name = "h" then .ok [home, near] else .error "unknown name"
    let found := [SocketAddress.ofIp home 65535 0, SocketAddress.ofIp near 65535 0]
    resolve names "h:+065535" = .ok found ∧ (∀ a ∈ found, a.port.toNat = 65535) ∧
      (∃ reason, resolve names "h:65536" = .error (.badAddress "h:65536" reason)) ∧
      resolve names (SocketAddress.ofIp near 80 0).text = .ok [SocketAddress.ofIp near 80 0] := by
  intro home near names found
  have hcut : cutAtLast ':' "h:+065535".toList = some (['h'], "+065535".toList) := by decide
  have hport : Text.unsigned? 65536 "+065535".toList = some 65535 := by decide
  have hname : SocketAddress.ofText? "h:+065535" = none := by decide
  have hfound : resolve names "h:+065535" = .ok found := by
    unfold resolve
    simp only [hcut, hport, hname, show String.ofList ['h'] = "h" from rfl, numericHost?_letter]
    rfl
  rcases resolved_addresses_carry_port names with ⟨hall, _, hv6⟩
  rcases (hall "h:+065535").2.2 found hfound with ⟨_, _, _, p, _, _, _, hports⟩
  have hp : 65535 = p := hports _ List.mem_cons_self
  have hnone : Text.unsigned? 65536 "65536".toList = none := by decide
  have hnot : ∀ p < 65536, ¬ Text.Decimal p "65536".toList := by
    intro p hbound hdecimal
    rw [Text.unsigned?_eq_some_iff.mpr ⟨hdecimal, hbound⟩] at hnone
    cases hnone
  refine ⟨hfound, hp ▸ hports, (hall "h:65536").2.1 (Or.inr (Or.inr ?_)), hv6 _ 80⟩
  exact ⟨['h'], _, by decide, by decide, hnot⟩

end LineChat
