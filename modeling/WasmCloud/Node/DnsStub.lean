import WasmCloud.Lib.Checks
import WasmCloud.Lib.Orbit
import WasmCloud.Lib.Text

/-!
# The DNS Stub

A node answers queries for `.internal` names with its loopback address. A query is a packet of
at most 512 bytes, and the name in it a sequence of labels, the rest of which may be replaced by
a pointer to another place in the packet. The parser follows pointers wherever they lead, also
back, and keeps no record of where it was.

Reading goes on from a position in a way that depends on the position only, so the parser comes
to an end exactly if it comes to no position twice. Reads and slices panic outside the packet.
-/

namespace WasmCloud

open List

namespace DnsStub

/-- What keeps the stub from answering. -/
inductive DnsHalt where
  | panicked
  | unfinished
  deriving DecidableEq, Repr

/-- What `parse_name` has when it looks at the next byte. -/
structure NameState where
  pos : Nat
  name : String
  jumped : Bool
  lenConsumed : Nat
  deriving DecidableEq, Repr

section

variable (packet : List UInt8)

/-- `packet[i]`. -/
def readAt (i : Nat) : Except DnsHalt UInt8 := (packet[i]?).elim (throw .panicked) pure

/-- `packet[i..j]`. -/
def readSlice (i j : Nat) : Except DnsHalt (List UInt8) :=
  if i ≤ j ∧ j ≤ packet.length then .ok ((packet.drop i).take (j - i)) else .error .panicked

/-- `u16::from_be_bytes` of two bytes. -/
def readU16 (i : Nat) : Except DnsHalt Nat := do
  return (← readAt packet i).toNat * 256 + (← readAt packet (i + 1)).toNat

/-- One round of the loop of `parse_name`: it goes on, or returns. -/
def nameStep (offset : Nat) (s : NameState) : Except DnsHalt (NameState ⊕ Option (String × Nat)) :=
  if packet.length ≤ s.pos then .ok (.inr none)
  else do
    let len := (← readAt packet s.pos).toNat
    if len = 0 then
      return .inr (some (s.name, if s.jumped then s.lenConsumed else s.pos + 1 - offset))
    else if len &&& 0xC0 = 0xC0 then
      if packet.length ≤ s.pos + 1 then return .inr none
      else
        let pointer := ((len &&& 0x3F) <<< 8) ||| (← readAt packet (s.pos + 1)).toNat
        return .inl { s with
          pos := pointer
          jumped := true
          lenConsumed := if s.jumped then s.lenConsumed else s.pos + 2 - offset }
    else if 63 < len ∨ packet.length < s.pos + 1 + len then return .inr none
    else
      match Text.fromUtf8 (← readSlice packet (s.pos + 1) (s.pos + 1 + len)) with
      | none => return .inr none
      | some label =>
        return .inl { s with
          pos := s.pos + 1 + len
          name := (if s.name = "" then "" else s.name ++ ".") ++ label }

/-- The loop of `parse_name`, at most `fuel` rounds of it. -/
def parseNameLoop (offset : Nat) : Nat → NameState → Except DnsHalt (Option (String × Nat))
  | 0, _ => .error .unfinished
  | fuel + 1, s => do
    match ← nameStep packet offset s with
    | .inl next => parseNameLoop offset fuel next
    | .inr result => return result

def parseName (fuel offset : Nat) : Except DnsHalt (Option (String × Nat)) :=
  parseNameLoop packet offset fuel ⟨offset, "", false, 0⟩

/-- The answer section: the name at byte 12, type A, class IN, 60 seconds, `127.0.0.1`. -/
def answerSection : List UInt8 :=
  [0xC0, 0x0C, 0x00, 0x01, 0x00, 0x01, 0x00, 0x00, 0x00, 0x3C, 0x00, 0x04, 127, 0, 0, 1]

/-- The header after the transaction id, with or without an answer. -/
def responseHeader (answered : Bool) : List UInt8 :=
  [0x81, if answered then 0x80 else 0x82, 0x00, 0x01, 0x00, if answered then 0x01 else 0x00,
    0x00, 0x00, 0x00, 0x00]

/-- The end of `build_response`, when the name has been parsed. -/
def respond (txId : List UInt8) (name : String) (nameLen : Nat) : Except DnsHalt (List UInt8) :=
  let qtypePos := 12 + nameLen
  if packet.length < qtypePos + 4 then .ok []
  else do
    let qtype ← readU16 packet qtypePos
    let _qclass ← readU16 packet (qtypePos + 2)
    let answered := Text.endsWith name ".internal" && qtype == 1
    let question ← readSlice packet 12 (qtypePos + 4)
    return txId ++ responseHeader answered ++ question ++ if answered then answerSection else []

def buildResponse (fuel : Nat) : Except DnsHalt (List UInt8) :=
  if packet.length < 12 then .ok []
  else do
    let txId := [← readAt packet 0, ← readAt packet 1]
    let flags ← readU16 packet 2
    if flags &&& 0x8000 ≠ 0 then return []
    else
      let qdcount ← readU16 packet 4
      if qdcount ≠ 1 then return []
      else
        match ← parseName packet fuel 12 with
        | none => return []
        | some (name, nameLen) => respond packet txId name nameLen

/-- Where reading a name goes on after a position, if it does. -/
def hop (pos : Nat) : Option Nat :=
  match nameStep packet 0 ⟨pos, "", false, 0⟩ with
  | .ok (.inl next) => some next.pos
  | .ok (.inr _) | .error _ => none

def u16At (i : Nat) : Nat := (packet.getD i 0).toNat * 256 + (packet.getD (i + 1) 0).toNat

/-- A standard query with one question. -/
def isQuery : Bool := 12 ≤ packet.length && u16At packet 2 &&& 0x8000 == 0 && u16At packet 4 == 1

/-- The question is for the address of this name. -/
def AsksFor (fuel : Nat) (name : String) (nameLen : Nat) : Prop :=
  isQuery packet = true ∧ parseName packet fuel 12 = .ok (some (name, nameLen)) ∧
    12 + nameLen + 4 ≤ packet.length

def HasARecord (response : List UInt8) : Prop :=
  response[7]? = some 1 ∧ answerSection <:+ response

/-- The response is empty, or carries the transaction id and the question, and the address
    exactly if the question is for an internal name's. -/
def Answers (fuel : Nat) (response : List UInt8) : Prop :=
  (response = [] ∨ response.length ≤ 512 + 16 ∧ response.take 2 = packet.take 2 ∧
    ∃ name nameLen, AsksFor packet fuel name nameLen ∧
      (packet.drop 12).take (nameLen + 4) <+: response.drop 12) ∧
  (HasARecord response ↔ ∃ name nameLen, AsksFor packet fuel name nameLen ∧
    u16At packet (12 + nameLen) = 1 ∧ Text.endsWith name ".internal" = true)

end

variable {packet : List UInt8} {i : Nat}

theorem readAt_ok (h : i < packet.length) : readAt packet i = .ok (packet.getD i 0) := by
  simp only [readAt, List.getElem?_eq_getElem h, Option.elim_some, getD_eq_getElem?_getD,
    Option.getD_some]
  rfl

theorem readU16_ok (h : i + 1 < packet.length) : readU16 packet i = .ok (u16At packet i) := by
  rw [readU16, readAt_ok (Nat.lt_of_succ_lt h), readAt_ok h]
  rfl

theorem readSlice_ok {j : Nat} (hij : i ≤ j) (hj : j ≤ packet.length) :
    readSlice packet i j = .ok ((packet.drop i).take (j - i)) := if_pos ⟨hij, hj⟩

theorem nameStep_cases (offset : Nat) (s : NameState) :
    (∃ t, nameStep packet offset s = .ok (.inl t) ∧ hop packet s.pos = some t.pos) ∨
      ∃ r, nameStep packet offset s = .ok (.inr r) ∧ hop packet s.pos = none := by
  unfold hop nameStep
  by_cases hend : packet.length ≤ s.pos
  · exact .inr ⟨none, by rw [if_pos hend], by rw [if_pos hend]⟩
  · have hread := readAt_ok (Nat.lt_of_not_le hend)
    simp only [if_neg hend, hread, bind, Except.bind, pure, Except.pure]
    by_cases hzero : (packet.getD s.pos 0).toNat = 0
    · simp only [if_pos hzero]
      exact .inr ⟨_, rfl, trivial⟩
    by_cases hpointer : (packet.getD s.pos 0).toNat &&& 0xC0 = 0xC0
    · grind [readAt_ok]
    by_cases hlong : 63 < (packet.getD s.pos 0).toNat ∨
        packet.length < s.pos + 1 + (packet.getD s.pos 0).toNat
    · simp only [if_neg hzero, if_neg hpointer, if_pos hlong]
      exact .inr ⟨_, rfl, trivial⟩
    · rw [not_or, Nat.not_lt, Nat.not_lt] at hlong
      simp only [if_neg hzero, if_neg hpointer, Nat.not_lt.mpr hlong.1, Nat.not_lt.mpr hlong.2,
        or_self, if_false, readSlice_ok (Nat.le_add_right _ _) hlong.2]
      cases Text.fromUtf8 ((packet.drop (s.pos + 1)).take _) with
      | none => exact .inr ⟨_, rfl, rfl⟩
      | some label => exact .inl ⟨_, rfl, rfl⟩

theorem hop_lt {a b : Nat} (h : hop packet a = some b) : a < packet.length := by
  by_contra hend
  rw [hop, nameStep, if_pos (Nat.le_of_not_lt hend)] at h
  nomatch h

theorem parseNameLoop_ok_iff (offset fuel : Nat) (s : NameState) :
    (∃ r, parseNameLoop packet offset fuel s = .ok r) ↔ iter (hop packet) fuel s.pos = none := by
  induction fuel generalizing s with
  | zero => simp [parseNameLoop, iter]
  | succ fuel ih =>
    rw [parseNameLoop, iter]
    rcases nameStep_cases offset s with ⟨t, hstep, hhop⟩ | ⟨r, hstep, hhop⟩
    · rw [hstep, hhop]
      exact ih t
    · rw [hstep, hhop]
      exact iff_of_true ⟨r, rfl⟩ rfl

theorem parseName_ends_iff : (∃ fuel r, parseName packet fuel 12 = .ok r) ↔
      (trail (hop packet) packet.length 12).Nodup := by
  rw [← rests_iff_nodup (fun _ _ => hop_lt)]
  constructor
  · rintro ⟨fuel, hends⟩
    exact rests_of_iter_none ((parseNameLoop_ok_iff 12 fuel _).mp hends)
  · intro hrests
    obtain ⟨fuel, hfuel⟩ := hrests.iter_none
    exact ⟨fuel, (parseNameLoop_ok_iff 12 fuel _).mpr hfuel⟩

theorem buildResponse_of_not_query (fuel : Nat) (h : isQuery packet = false) :
    buildResponse packet fuel = .ok [] := by
  unfold buildResponse
  split_ifs with hshort
  · rfl
  · rw [readAt_ok (by omega), readAt_ok (by omega), readU16_ok (by omega), readU16_ok (by omega)]
    simp only [isQuery, Nat.le_of_not_lt hshort, decide_true, Bool.true_and, Bool.and_eq_false_iff,
      beq_eq_false_iff_ne] at h
    simp only [bind, Except.bind, pure, Except.pure]
    split_ifs with hflags hcount
    · rfl
    · rfl
    · exact absurd h (by simp_all)

theorem buildResponse_of_query (fuel : Nat) (h : isQuery packet = true) :
    buildResponse packet fuel = (do
      match ← parseName packet fuel 12 with
      | none => return []
      | some (name, nameLen) => respond packet (packet.take 2) name nameLen) := by
  simp only [isQuery, Bool.and_eq_true, decide_eq_true_eq, beq_iff_eq] at h
  obtain ⟨⟨hlength, hflags⟩, hcount⟩ := h
  have hid : [packet.getD 0 0, packet.getD (0 + 1) 0] = packet.take 2 := by
    rcases packet with _ | ⟨a, _ | ⟨b, rest⟩⟩
    · simp at hlength
    · simp at hlength
    · rfl
  rw [buildResponse, if_neg (Nat.not_lt.mpr hlength), readAt_ok (by omega), readAt_ok (by omega),
    readU16_ok (by omega), readU16_ok (by omega)]
  simp only [bind, Except.bind, hid, hflags, hcount, ne_eq, not_true_eq_false, if_false]

theorem respond_ok {nameLen : Nat} (txId : List UInt8) (name : String)
    (hlength : 12 + nameLen + 4 ≤ packet.length) :
    respond packet txId name nameLen = .ok (
      let answered := Text.endsWith name ".internal" && u16At packet (12 + nameLen) == 1
      txId ++ responseHeader answered ++ (packet.drop 12).take (nameLen + 4) ++
        if answered then answerSection else []) := by
  have hslice : 12 + nameLen + 4 - 12 = nameLen + 4 := by omega
  simp only [respond, if_neg (Nat.not_lt.mpr hlength)]
  rw [readU16_ok (by omega), readU16_ok (by omega), readSlice_ok (by omega) hlength, hslice]
  rfl

theorem hasARecord_iff {txId question : List UInt8} (hid : txId.length = 2) (answered : Bool) :
    HasARecord (txId ++ responseHeader answered ++ question ++
      if answered then answerSection else []) ↔ answered = true := by
  match txId, hid with
  | [a, b], _ =>
    cases answered with
    | false => simp [HasARecord, responseHeader]
    | true => exact iff_of_true ⟨rfl, suffix_append _ _⟩ rfl

theorem answers_of_parsed {fuel : Nat} (hsize : packet.length ≤ 512)
    (hquery : isQuery packet = true) {r : Option (String × Nat)}
    (hparsed : parseName packet fuel 12 = .ok r) :
    ∃ response, buildResponse packet fuel = .ok response ∧ Answers packet fuel response := by
  rw [buildResponse_of_query fuel hquery, hparsed]
  have hempty : ¬HasARecord [] := fun h => absurd h.1 (by simp)
  rcases r with _ | ⟨name, nameLen⟩
  · refine ⟨[], rfl, .inl rfl, iff_of_false hempty ?_⟩
    rintro ⟨name, nameLen, ⟨-, hname, -⟩, -⟩
    rw [hparsed] at hname
    nomatch hname
  -- There is only the one name that was parsed.
  have honly {other : String} {n : Nat} (h : AsksFor packet fuel other n) :
      other = name ∧ n = nameLen := by
    have heq := h.2.1
    rw [hparsed, Except.ok.injEq, Option.some_inj, Prod.mk.injEq] at heq
    exact ⟨heq.1.symm, heq.2.symm⟩
  by_cases hshort : packet.length < 12 + nameLen + 4
  · refine ⟨[], by simp [bind, Except.bind, respond, hshort], .inl rfl, iff_of_false hempty ?_⟩
    rintro ⟨other, n, hasks, -⟩
    obtain ⟨-, rfl⟩ := honly hasks
    exact absurd hasks.2.2 (Nat.not_le.mpr hshort)
  · have hlength := Nat.le_of_not_lt hshort
    have hasks : AsksFor packet fuel name nameLen := ⟨hquery, hparsed, hlength⟩
    have hid : (packet.take 2).length = 2 := by
      rw [length_take]
      omega
    have hheader (answered : Bool) : (packet.take 2 ++ responseHeader answered).length = 12 := by
      rw [length_append, hid]
      rfl
    refine ⟨_, respond_ok _ name hlength, .inr ⟨?_, ?_, name, nameLen, hasks, ?_⟩, ?_⟩
    · have hanswer (answered : Bool) : (if answered then answerSection else []).length ≤ 16 := by
        cases answered <;> decide
      have hle := hanswer (Text.endsWith name ".internal" && u16At packet (12 + nameLen) == 1)
      rw [length_append, length_append, hheader, length_take, length_drop]
      omega
    · simp only [append_assoc]
      rw [take_append_of_le_length (by rw [hid]), take_take, Nat.min_self]
    · rw [append_assoc, drop_left' (hheader _)]
      exact prefix_append _ _
    · rw [hasARecord_iff hid, Bool.and_eq_true, beq_iff_eq]
      grind

/-- A packet is answered, and answered as it should be, exactly if it is no standard query with one
    question or following its name comes to no position twice. -/
theorem dns_stub_answers_iff {packet : List UInt8} (hsize : packet.length ≤ 512) :
    (∃ fuel response, buildResponse packet fuel = .ok response ∧ Answers packet fuel response) ↔
      (isQuery packet = true → (trail (hop packet) packet.length 12).Nodup) := by
  rw [← parseName_ends_iff]
  constructor
  · rintro ⟨fuel, response, hok, -⟩ hquery
    rw [buildResponse_of_query fuel hquery, bind_ok_iff] at hok
    obtain ⟨r, hparsed, -⟩ := hok
    exact ⟨fuel, r, hparsed⟩
  · intro h
    cases hquery : isQuery packet with
    | false =>
      refine ⟨0, [], buildResponse_of_not_query 0 hquery, .inl rfl, iff_of_false ?_ ?_⟩
      · exact fun h => absurd h.1 (by simp)
      · rintro ⟨name, nameLen, hasks, -⟩
        rw [hasks.1] at hquery
        nomatch hquery
    | true =>
      obtain ⟨fuel, r, hparsed⟩ := h hquery
      exact ⟨fuel, answers_of_parsed hsize hquery hparsed⟩

def queryHeader : List UInt8 := [0x12, 0x34, 0x01, 0x00, 0, 1, 0, 0, 0, 0, 0, 0]

/-- A query for the address of `a.internal`. -/
theorem dns_stub_answers_query : ∃ fuel response, buildResponse (queryHeader ++
        [1, 97, 8, 105, 110, 116, 101, 114, 110, 97, 108, 0, 0, 1, 0, 1]) fuel = .ok response ∧
      Answers (queryHeader ++
        [1, 97, 8, 105, 110, 116, 101, 114, 110, 97, 108, 0, 0, 1, 0, 1]) fuel response :=
  (dns_stub_answers_iff (by decide)).mpr fun _ => by decide +kernel

/-- A name that is a pointer to itself is followed for ever. -/
theorem dns_stub_hangs : (queryHeader ++ [0xC0, 0x0C, 0, 1, 0, 1]).length ≤ 512 ∧
      ∀ fuel response, buildResponse (queryHeader ++ [0xC0, 0x0C, 0, 1, 0, 1]) fuel ≠
        .ok response := by
  refine ⟨by decide, fun fuel response hok => ?_⟩
  rw [buildResponse_of_query fuel (by decide), bind_ok_iff] at hok
  obtain ⟨r, hparsed, -⟩ := hok
  exact absurd (parseName_ends_iff.mp ⟨fuel, r, hparsed⟩) (by decide +kernel)

end DnsStub

end WasmCloud
