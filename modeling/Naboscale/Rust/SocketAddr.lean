import Naboscale.Rust.Net

/-!
# The text of socket addresses

`Display` and `FromStr` of `std::net::SocketAddr`, with the values that are read. The text of an
address is parsed back to the address. An address has no scope here: one in a text is skipped.
-/

namespace Rust

/-! ## Numbers in a radix -/

/-- What may follow a number: nothing, or a character that is no digit in the radix. -/
def EndsDigits (radix : ℕ) (rest : List Char) : Prop := ∀ c ∈ rest.head?, toDigit radix c = none

theorem endsDigits_nil {radix : ℕ} : EndsDigits radix [] := fun _ h => nomatch h

theorem endsDigits_cons {radix : ℕ} {c : Char} {rest : List Char} (h : toDigit radix c = none) :
    EndsDigits radix (c :: rest) := by
  intro d hd
  cases hd
  exact h

theorem toDigit_digitChar {radix digit : ℕ} (hradix : radix ≤ 16) (h : digit < radix) :
    toDigit radix digit.digitChar = some digit := by
  have hall : ∀ radix : Fin 17, ∀ digit : Fin 16, digit.val < radix.val →
      toDigit radix.val digit.val.digitChar = some digit.val := by
    decide +kernel
  exact hall ⟨radix, by omega⟩ ⟨digit, by omega⟩ h

/-- Digits are read back up to the end of the number. -/
theorem readDigits_digits {radix : ℕ} {digits : List ℕ} {rest : List Char} (hradix : radix ≤ 16)
    (hdigits : ∀ d ∈ digits, d < radix) (hrest : EndsDigits radix rest) :
    readDigits radix (digits.map Nat.digitChar ++ rest) = (digits, rest) := by
  induction digits with
  | nil =>
      cases rest with
      | nil => rfl
      | cons c rest => simp [readDigits, hrest c rfl]
  | cons digit digits ih =>
      have hdigit := toDigit_digitChar hradix (hdigits digit (List.mem_cons_self ..))
      have htail := ih fun d hd => hdigits d (List.mem_cons_of_mem _ hd)
      simp [readDigits, hdigit, htail]

/-- The digits that `{}` and `{:x}` write. -/
theorem toDigits_eq_map {radix : ℕ} (hradix : 1 < radix) (n : ℕ) :
    ∃ digits, Nat.toDigits radix n = digits.map Nat.digitChar ∧ (∀ d ∈ digits, d < radix) ∧
      ofDigits radix digits = n := by
  induction n using Nat.strong_induction_on with
  | _ n ih =>
      by_cases hn : n < radix
      · refine ⟨[n], Nat.toDigits_of_lt_base hn, ?_, ?_⟩
        · intro d hd
          rw [List.mem_singleton] at hd
          omega
        · simp [ofDigits]
      · have hpos : 0 < n := by omega
        obtain ⟨digits, htext, hall, hvalue⟩ := ih (n / radix) (Nat.div_lt_self hpos hradix)
        refine ⟨digits ++ [n % radix], ?_, ?_, ?_⟩
        · rw [Nat.toDigits_of_base_le hradix (not_lt.1 hn), htext, List.map_append, List.map_cons,
            List.map_nil]
        · intro d hd
          obtain hd | hd := List.mem_append.1 hd
          · exact hall d hd
          · rw [List.mem_singleton.1 hd]
            exact Nat.mod_lt _ (by omega)
        · rw [ofDigits] at hvalue
          rw [ofDigits, List.foldl_append, hvalue]
          exact Nat.div_add_mod' n radix

/-- A number is read back from its text. -/
theorem readNumber_toDigits {radix bound n : ℕ} {most : Option ℕ} {rest : List Char}
    (hradix : 1 < radix) (hradix' : radix ≤ 16) (hn : n < bound)
    (hmost : ∀ k ∈ most, 0 < k ∧ n < radix ^ k) (hrest : EndsDigits radix rest) :
    readNumber radix most true bound (Nat.toDigits radix n ++ rest) = some (n, rest) := by
  obtain ⟨digits, htext, hall, hvalue⟩ := toDigits_eq_map hradix n
  have hlength : (Nat.toDigits radix n).length = digits.length := by
    rw [htext, List.length_map]
  rw [readNumber, htext, readDigits_digits hradix' hall hrest]
  simp only [hvalue]
  rw [if_neg]
  rintro (hnil | hlong | ⟨hfalse, -⟩ | hbound)
  · have hpos := Nat.length_toDigits_pos (b := radix) (n := n)
    rw [hlength, hnil] at hpos
    cases hpos
  · cases most with
    | none => cases hlong
    | some k =>
        obtain ⟨hk, hnk⟩ := hmost k rfl
        have hshort := (Nat.length_toDigits_le_iff hradix hk).2 hnk
        have hlong : k < digits.length := of_decide_eq_true hlong
        omega
  · cases hfalse
  · omega

/-! ## Addresses and ports -/

theorem Ipv4Addr.read_append (ip : Ipv4Addr) {rest : List Char} (hrest : EndsNumber rest) :
    read (ip.text ++ rest) = some (ip, rest) := by
  have hdot (l : List Char) : readChar '.' ('.' :: l) = some l := rfl
  rw [read, text]
  simp only [List.append_assoc, List.cons_append, readNumber_decimal ip.a.toNat_lt (endsNumber_dot _),
    readNumber_decimal ip.b.toNat_lt (endsNumber_dot _),
    readNumber_decimal ip.c.toNat_lt (endsNumber_dot _),
    readNumber_decimal ip.d.toNat_lt hrest, hdot, Option.bind_eq_bind,
    Option.bind_some, UInt8.ofNat_toNat, Option.pure_def]

/-- `read_port`. -/
def readPort (text : List Char) : Option (UInt16 × List Char) := do
  let text ← readChar ':' text
  let (port, text) ← readNumber 10 none true (2 ^ 16) text
  pure (UInt16.ofNat port, text)

theorem skipPort_eq (text : List Char) : skipPort text = (readPort text).map Prod.snd := by
  rw [skipPort, readPort]
  cases readChar ':' text with
  | none => rfl
  | some text =>
      simp only [Option.bind_eq_bind, Option.bind_some]
      cases readNumber 10 none true (2 ^ 16) text <;> rfl

theorem readPort_text (port : UInt16) :
    readPort (':' :: decimal port.toNat) = some (port, []) := by
  have hread : readNumber 10 none true (2 ^ 16) (decimal port.toNat ++ []) =
      some (port.toNat, []) :=
    readNumber_toDigits (by decide) (by decide) port.toNat_lt (fun _ h => nomatch h) endsDigits_nil
  rw [List.append_nil] at hread
  rw [readPort]
  show (readNumber 10 none true (2 ^ 16) (decimal port.toNat)).bind _ = _
  rw [hread]
  show some (UInt16.ofNat port.toNat, []) = _
  rw [UInt16.ofNat_toNat]

/-! ## IPv6 addresses -/

/-- `Ipv6Addr::segments`. -/
def segments (octets : Arr 16) : List ℕ :=
  List.ofFn fun i : Fin 8 =>
    (octets.val.getD (2 * i) 0).toNat * 256 + (octets.val.getD (2 * i + 1) 0).toNat

/-- `Ipv6Addr::from` of eight segments; one that is not there is zero. -/
def ofSegments (segments : List ℕ) : Arr 16 :=
  ⟨List.ofFn fun i : Fin 16 =>
    let segment := segments.getD (i / 2) 0
    UInt8.ofNat (if i.val % 2 = 0 then segment / 256 else segment), List.length_ofFn⟩

/-- `read_groups`: at most `limit` groups. The result is the groups, whether the last two were an
IPv4 address, and what follows them. -/
def readSegments : ℕ → Bool → List Char → List ℕ × Bool × List Char
  | 0, _, text => ([], false, text)
  | limit + 1, isFirst, text =>
      match if isFirst then some text else readChar ':' text with
      | none => ([], false, text)
      | some inner =>
          match if 0 < limit then Ipv4Addr.read inner else none with
          | some (ip, rest) =>
              ([ip.a.toNat * 256 + ip.b.toNat, ip.c.toNat * 256 + ip.d.toNat], true, rest)
          | none =>
              match readNumber 16 (some 4) true (2 ^ 16) inner with
              | none => ([], false, text)
              | some (segment, rest) =>
                  let (segments, embedded, rest) := readSegments limit false rest
                  (segment :: segments, embedded, rest)

/-- `read_ipv6_addr`. -/
def readIpv6 (text : List Char) : Option (Arr 16 × List Char) :=
  let (head, embedded, rest) := readSegments 8 true text
  if head.length = 8 then some (ofSegments head, rest)
  else if embedded then none
  else do
    let rest ← readChar ':' rest
    let rest ← readChar ':' rest
    let (tail, _, rest) := readSegments (8 - (head.length + 1)) true rest
    some (ofSegments (head ++ List.replicate (8 - head.length - tail.length) 0 ++ tail), rest)

theorem readGroups_eq (limit : ℕ) (isFirst : Bool) (text : List Char) :
    readGroups limit isFirst text =
      ((readSegments limit isFirst text).1.length, (readSegments limit isFirst text).2) := by
  induction limit generalizing isFirst text with
  | zero => rfl
  | succ limit ih =>
      rw [readGroups, readSegments]
      cases if isFirst then some text else readChar ':' text with
      | none => rfl
      | some inner =>
          dsimp only
          cases if 0 < limit then Ipv4Addr.read inner else none with
          | some read => rfl
          | none =>
              dsimp only
              cases readNumber 16 (some 4) true (2 ^ 16) inner with
              | none => rfl
              | some read => simp only [ih, List.length_cons]

theorem skipIpv6_eq (text : List Char) : skipIpv6 text = (readIpv6 text).map Prod.snd := by
  rw [skipIpv6, readIpv6, readGroups_eq]
  simp only []
  split
  · rfl
  · split
    · rfl
    · cases readChar ':' (readSegments 8 true text).2.2 with
      | none => rfl
      | some rest =>
          simp only [Option.bind_eq_bind, Option.bind_some]
          cases readChar ':' rest with
          | none => rfl
          | some rest => simp only [readGroups_eq, Option.bind_some, Option.map_some]

/-! ## Socket addresses -/

namespace SocketAddr

/-- `read_socket_addr_v4`. -/
def readV4 (text : List Char) : Option (SocketAddr × List Char) := do
  let (ip, text) ← Ipv4Addr.read text
  let (port, text) ← readPort text
  pure (⟨.v4 ip, port⟩, text)

/-- `read_socket_addr_v6`. -/
def readV6 (text : List Char) : Option (SocketAddr × List Char) := do
  let text ← readChar '[' text
  let (octets, text) ← readIpv6 text
  let text ← readChar ']' (skipScope text)
  let (port, text) ← readPort text
  pure (⟨.v6 octets, port⟩, text)

/-- `SocketAddr::from_str`. -/
def parse (s : String) : Option SocketAddr :=
  match (readV4 s.toList).or (readV6 s.toList) with
  | some (addr, []) => some addr
  | _ => none

end SocketAddr

/-- The texts that are accepted are those that are read. -/
theorem isSocketAddr_eq (s : String) : isSocketAddr s = (SocketAddr.parse s).isSome := by
  have hv4 : (do
      let (_, text) ← Ipv4Addr.read s.toList
      skipPort text) = (SocketAddr.readV4 s.toList).map Prod.snd := by
    rw [SocketAddr.readV4]
    cases Ipv4Addr.read s.toList with
    | none => rfl
    | some read =>
        simp only [Option.bind_eq_bind, Option.bind_some, skipPort_eq]
        cases readPort read.2 <;> rfl
  have hv6 : (do
      let text ← readChar '[' s.toList
      let text ← skipIpv6 text
      let text ← readChar ']' (skipScope text)
      skipPort text) = (SocketAddr.readV6 s.toList).map Prod.snd := by
    rw [SocketAddr.readV6]
    cases readChar '[' s.toList with
    | none => rfl
    | some text =>
        simp only [Option.bind_eq_bind, Option.bind_some, skipIpv6_eq]
        cases readIpv6 text with
        | none => rfl
        | some read =>
            simp only [Option.bind_some, Option.map_some]
            cases readChar ']' (skipScope read.2) with
            | none => rfl
            | some text =>
                simp only [Option.bind_some, skipPort_eq]
                cases readPort text <;> rfl
  rw [isSocketAddr, hv4, hv6, SocketAddr.parse]
  cases SocketAddr.readV4 s.toList with
  | some read =>
      obtain ⟨addr, rest⟩ := read
      cases rest <;> rfl
  | none =>
      cases SocketAddr.readV6 s.toList with
      | none => rfl
      | some read =>
          obtain ⟨addr, rest⟩ := read
          cases rest <;> rfl

/-! ## The text of an address -/

/-- A number in hexadecimal. -/
def hexadecimal (n : ℕ) : List Char := Nat.toDigits 16 n

/-- A run of zero segments. -/
structure Span where
  start : ℕ
  len : ℕ

/-- The longest run so far and the one that the last segment ends. -/
structure Spans where
  longest : Span
  current : Span

/-- One pass of the loop over the segments. -/
def Spans.next (spans : Spans) (segment : ℕ × ℕ) : Spans :=
  if segment.1 = 0 then
    let start := if spans.current.len = 0 then segment.2 else spans.current.start
    let current : Span := ⟨start, spans.current.len + 1⟩
    ⟨if spans.longest.len < current.len then current else spans.longest, current⟩
  else ⟨spans.longest, ⟨0, 0⟩⟩

/-- The longest run of zero segments. -/
def zeroes (segments : List ℕ) : Span :=
  (segments.zipIdx.foldl Spans.next ⟨⟨0, 0⟩, ⟨0, 0⟩⟩).longest

/-- Segments, each after a colon. -/
def colonText (segments : List ℕ) : List Char := segments.flatMap fun s => ':' :: hexadecimal s

/-- `fmt_subslice`. -/
def subsliceText : List ℕ → List Char
  | [] => []
  | first :: tail => hexadecimal first ++ colonText tail

/-- `to_ipv4_mapped`. -/
def toIpv4Mapped (octets : Arr 16) : Option Ipv4Addr :=
  match octets.val with
  | [0, 0, 0, 0, 0, 0, 0, 0, 0, 0, 255, 255, a, b, c, d] => some ⟨a, b, c, d⟩
  | _ => none

/-- The characters of an IPv6 address. -/
def ipv6Text (octets : Arr 16) : List Char :=
  match toIpv4Mapped octets with
  | some ipv4 => "::ffff:".toList ++ ipv4.text
  | none =>
      let segments := segments octets
      let zeroes := zeroes segments
      if 1 < zeroes.len then
        subsliceText (segments.take zeroes.start) ++ ':' :: ':' ::
          subsliceText (segments.drop (zeroes.start + zeroes.len))
      else subsliceText segments

/-- The characters of an address and a port. -/
def SocketAddr.text (addr : SocketAddr) : List Char :=
  match addr.ip with
  | .v4 ip => ip.text ++ ':' :: decimal addr.port.toNat
  | .v6 octets => '[' :: (ipv6Text octets ++ ']' :: ':' :: decimal addr.port.toNat)

instance : ToString SocketAddr where
  toString addr := String.ofList addr.text

/-! ## Reading the text back -/

theorem ofSegments_segments (octets : Arr 16) : ofSegments (segments octets) = octets := by
  obtain ⟨octets, hlength⟩ := octets
  apply Subtype.ext
  apply List.ext_getElem
  · rw [Arr.length_eq, hlength]
  intro i hi hi'
  dsimp only at hi'
  have hsegment : (segments ⟨octets, hlength⟩).getD (i / 2) 0 =
      (octets.getD (2 * (i / 2)) 0).toNat * 256 + (octets.getD (2 * (i / 2) + 1) 0).toNat := by
    have hhalf : i / 2 < 8 := by omega
    rw [segments, List.getD_eq_getElem?_getD, List.getElem?_ofFn, dif_pos hhalf]
    rfl
  have hget : octets.getD i 0 = octets[i] := by
    rw [List.getD_eq_getElem?_getD, List.getElem?_eq_getElem hi', Option.getD_some]
  have hbyte := octets[i].toNat_lt
  simp only [ofSegments, List.getElem_ofFn, hsegment]
  split
  · have hi2 : 2 * (i / 2) = i := by omega
    have hnext := (octets.getD (i + 1) 0).toNat_lt
    rw [hi2, hget]
    apply UInt8.toNat_inj.1
    rw [UInt8.toNat_ofNat']
    omega
  · have hi2 : 2 * (i / 2) + 1 = i := by omega
    rw [hi2, hget]
    apply UInt8.toNat_inj.1
    rw [UInt8.toNat_ofNat']
    omega

/-- A run of zeros at its place in the segments. -/
def Span.Within (span : Span) (segments : List ℕ) : Prop :=
  ∃ before after, segments = before ++ List.replicate span.len 0 ++ after ∧
    before.length = span.start

/-- The loop keeps track of the runs. -/
theorem spans_within (segments : List ℕ) :
    let spans := segments.zipIdx.foldl Spans.next ⟨⟨0, 0⟩, ⟨0, 0⟩⟩
    spans.longest.Within segments ∧
      (spans.current.len = 0 ∨ ∃ before,
        segments = before ++ List.replicate spans.current.len 0 ∧
          before.length = spans.current.start) := by
  induction segments using List.reverseRecOn with
  | nil => exact ⟨⟨[], [], rfl, rfl⟩, .inl rfl⟩
  | append_singleton segments segment ih =>
      rw [List.zipIdx_append, List.foldl_append]
      set spans := segments.zipIdx.foldl Spans.next ⟨⟨0, 0⟩, ⟨0, 0⟩⟩
      obtain ⟨⟨before, after, hlongest, hstart⟩, hcurrent⟩ := ih
      have hkept : spans.longest.Within (segments ++ [segment]) := by
        refine ⟨before, after ++ [segment], ?_, hstart⟩
        rw [← List.append_assoc, ← hlongest]
      simp only [List.zipIdx_singleton, List.foldl_cons, List.foldl_nil, Spans.next, zero_add]
      by_cases hzero : segment = 0
      · -- The run that the new segment ends, and the longest one if it is longer.
        rw [if_pos hzero]
        have hrun : ∃ before, segments ++ [segment] =
            before ++ List.replicate (spans.current.len + 1) 0 ∧
            before.length = if spans.current.len = 0 then segments.length
              else spans.current.start := by
          by_cases hempty : spans.current.len = 0
          · refine ⟨segments, ?_, (if_pos hempty).symm⟩
            rw [hempty, hzero]
            rfl
          · obtain ⟨before, hsegments, hlength⟩ := hcurrent.resolve_left hempty
            refine ⟨before, ?_, hlength.trans (if_neg hempty).symm⟩
            rw [List.replicate_succ', ← List.append_assoc, ← hsegments, hzero]
        refine ⟨?_, .inr hrun⟩
        dsimp only
        split
        · obtain ⟨before, hsegments, hlength⟩ := hrun
          exact ⟨before, [], by rw [List.append_nil, hsegments], hlength⟩
        · exact hkept
      · rw [if_neg hzero]
        exact ⟨hkept, .inl rfl⟩

theorem zeroes_within (segments : List ℕ) : (zeroes segments).Within segments :=
  (spans_within segments).1

theorem segments_length (octets : Arr 16) : (segments octets).length = 8 := List.length_ofFn

theorem segments_lt (octets : Arr 16) : ∀ s ∈ segments octets, s < 2 ^ 16 := by
  intro s hs
  obtain ⟨i, rfl⟩ := List.mem_ofFn.1 hs
  have ha := (octets.val.getD (2 * i) 0).toNat_lt
  have hb := (octets.val.getD (2 * i + 1) 0).toNat_lt
  omega

/-- What follows a segment: a colon, or the bracket that ends the address. -/
def Delimited (rest : List Char) : Prop := ∃ c tail, rest = c :: tail ∧ (c = ':' ∨ c = ']')

/-- What follows the segments of one side: two colons, or the bracket that ends the address. -/
def EndsSegments (rest : List Char) : Prop :=
  ∃ tail, rest = ':' :: ':' :: tail ∨ rest = ']' :: tail

theorem EndsSegments.delimited {rest : List Char} (h : EndsSegments rest) : Delimited rest := by
  obtain ⟨tail, h | h⟩ := h
  · exact ⟨':', _, h, .inl rfl⟩
  · exact ⟨']', _, h, .inr rfl⟩

theorem Delimited.endsDigits {rest : List Char} (h : Delimited rest) {radix : ℕ} :
    EndsDigits radix rest := by
  obtain ⟨c, tail, rfl, rfl | rfl⟩ := h <;> exact endsDigits_cons rfl

/-- No address with dots starts where the digits of a segment end in no dot. -/
theorem read_eq_none {text : List Char} (h : (readDigits 10 text).2.head? ≠ some '.') :
    Ipv4Addr.read text = none := by
  rw [Ipv4Addr.read]
  cases hread : readNumber 10 (some 3) false 256 text with
  | none => rfl
  | some read =>
      have hrest : read.2 = (readDigits 10 text).2 := by
        rw [readNumber] at hread
        dsimp only at hread
        split at hread
        · cases hread
        · cases hread
          rfl
      have hdot : readChar '.' read.2 = none := by
        rw [← hrest] at h
        cases hchars : read.2 with
        | nil => rfl
        | cons c tail =>
            rw [hchars] at h
            exact if_neg fun hc => h (congrArg some hc)
      simp only [Option.bind_eq_bind, Option.bind_some, hdot, Option.bind_none]

theorem readDigits_head {text rest : List Char} (htext : '.' ∉ text) (hrest : Delimited rest) :
    (readDigits 10 (text ++ rest)).2.head? ≠ some '.' := by
  induction text with
  | nil => obtain ⟨c, tail, rfl, rfl | rfl⟩ := hrest <;> exact fun h => nomatch h
  | cons c text ih =>
      rw [List.cons_append, readDigits]
      split
      · exact ih fun h => htext (List.mem_cons_of_mem _ h)
      · exact fun h => htext (List.mem_cons.2 (.inl (Option.some.inj h).symm))

theorem dot_not_mem_hexadecimal (n : ℕ) : '.' ∉ hexadecimal n := by
  obtain ⟨digits, htext, hall, -⟩ := toDigits_eq_map (show 1 < 16 by decide) n
  rw [hexadecimal, htext]
  intro h
  obtain ⟨digit, hdigit, hchar⟩ := List.mem_map.1 h
  have hread := toDigit_digitChar le_rfl (hall digit hdigit)
  rw [hchar] at hread
  cases hread

/-- Reading stops where the segments end. -/
theorem readSegments_stop {rest : List Char} (limit : ℕ) (isFirst : Bool) (h : EndsSegments rest) :
    readSegments limit isFirst rest = ([], false, rest) := by
  cases limit with
  | zero => rfl
  | succ limit =>
      have hinner {inner : List Char} (hinner : Delimited inner) :
          (match if 0 < limit then Ipv4Addr.read inner else none with
            | some (ip, rest) =>
                ([ip.a.toNat * 256 + ip.b.toNat, ip.c.toNat * 256 + ip.d.toNat], true, rest)
            | none =>
                match readNumber 16 (some 4) true (2 ^ 16) inner with
                | none => ([], false, rest)
                | some (segment, rest) =>
                    let (segments, embedded, rest) := readSegments limit false rest
                    (segment :: segments, embedded, rest)) = ([], false, rest) := by
        have hhead : (readDigits 10 ([] ++ inner)).2.head? ≠ some '.' :=
          readDigits_head List.not_mem_nil hinner
        have hread : Ipv4Addr.read inner = none := read_eq_none hhead
        have hnumber : readNumber 16 (some 4) true (2 ^ 16) inner = none := by
          obtain ⟨c, tail, rfl, rfl | rfl⟩ := hinner <;> rfl
        rw [hread, ite_self, hnumber]
      rw [readSegments]
      cases isFirst with
      | true => exact hinner h.delimited
      | false =>
          obtain ⟨tail, rfl | rfl⟩ := h
          · exact hinner ⟨':', tail, rfl, .inl rfl⟩
          · rfl

/-- One segment is read back. -/
theorem readSegments_segment {limit segment : ℕ} {rest : List Char} (isFirst : Bool)
    (hsegment : segment < 2 ^ 16) (hrest : Delimited rest) :
    readSegments (limit + 1) isFirst
        ((if isFirst then [] else [':']) ++ hexadecimal segment ++ rest) =
      (segment :: (readSegments limit false rest).1, (readSegments limit false rest).2) := by
  have hread : Ipv4Addr.read (hexadecimal segment ++ rest) = none :=
    read_eq_none (readDigits_head (dot_not_mem_hexadecimal segment) hrest)
  have hnumber : readNumber 16 (some 4) true (2 ^ 16) (hexadecimal segment ++ rest) =
      some (segment, rest) := by
    refine readNumber_toDigits (by decide) le_rfl hsegment ?_ hrest.endsDigits
    intro k hk
    cases hk
    exact ⟨by decide, hsegment⟩
  have hinner : (if isFirst = true then
      some ((if isFirst = true then [] else [':']) ++ hexadecimal segment ++ rest)
      else readChar ':' ((if isFirst = true then [] else [':']) ++ hexadecimal segment ++ rest)) =
      some (hexadecimal segment ++ rest) := by
    cases isFirst <;> rfl
  rw [readSegments, hinner]
  dsimp only
  rw [hread, ite_self, hnumber]

theorem delimited_colonText {segments : List ℕ} {rest : List Char} (hrest : EndsSegments rest) :
    Delimited (colonText segments ++ rest) := by
  cases segments with
  | nil => exact hrest.delimited
  | cons segment segments => exact ⟨':', _, rfl, .inl rfl⟩

theorem readSegments_colonText {limit : ℕ} {segments : List ℕ} {rest : List Char}
    (hsegments : ∀ s ∈ segments, s < 2 ^ 16) (hlimit : segments.length ≤ limit)
    (hrest : EndsSegments rest) :
    readSegments limit false (colonText segments ++ rest) = (segments, false, rest) := by
  induction segments generalizing limit with
  | nil => exact readSegments_stop limit false hrest
  | cons segment segments ih =>
      cases limit with
      | zero => cases hlimit
      | succ limit =>
          have htext : colonText (segment :: segments) ++ rest =
              (if false = true then [] else [':']) ++ hexadecimal segment ++
                (colonText segments ++ rest) := by
            simp [colonText]
          have hrest' := ih (fun s hs => hsegments s (List.mem_cons_of_mem _ hs))
            (Nat.le_of_succ_le_succ hlimit)
          rw [htext, readSegments_segment false (hsegments segment (List.mem_cons_self ..))
            (delimited_colonText hrest), hrest']

/-- The segments of one side are read back. -/
theorem readSegments_subsliceText {limit : ℕ} {segments : List ℕ} {rest : List Char}
    (hsegments : ∀ s ∈ segments, s < 2 ^ 16) (hlimit : segments.length ≤ limit)
    (hrest : EndsSegments rest) :
    readSegments limit true (subsliceText segments ++ rest) = (segments, false, rest) := by
  cases segments with
  | nil => exact readSegments_stop limit true hrest
  | cons segment segments =>
      cases limit with
      | zero => cases hlimit
      | succ limit =>
          have htext : subsliceText (segment :: segments) ++ rest =
              (if true = true then [] else [':']) ++ hexadecimal segment ++
                (colonText segments ++ rest) := by
            simp [subsliceText]
          have hrest' := readSegments_colonText
            (fun s hs => hsegments s (List.mem_cons_of_mem _ hs))
            (Nat.le_of_succ_le_succ hlimit) hrest
          rw [htext, readSegments_segment true (hsegments segment (List.mem_cons_self ..))
            (delimited_colonText hrest), hrest']

/-- An address in IPv6 that holds one in IPv4 is read back. -/
theorem readIpv6_mapped {octets : Arr 16} {ipv4 : Ipv4Addr} (h : toIpv4Mapped octets = some ipv4)
    (more : List Char) :
    readIpv6 ("::ffff:".toList ++ ipv4.text ++ ']' :: more) = some (octets, ']' :: more) := by
  have hsegments : segments octets =
      [0, 0, 0, 0, 0, 65535, ipv4.a.toNat * 256 + ipv4.b.toNat,
        ipv4.c.toNat * 256 + ipv4.d.toNat] := by
    obtain ⟨octets, hlength⟩ := octets
    rw [toIpv4Mapped] at h
    split at h
    · cases h
      rename_i hoctets
      simp only at hoctets
      subst hoctets
      simp [segments, List.ofFn_succ]
    · cases h
  have hends : EndsNumber (']' :: more) := endsDigits_cons rfl
  have htail : readSegments 6 false (':' :: (ipv4.text ++ ']' :: more)) =
      ([ipv4.a.toNat * 256 + ipv4.b.toNat, ipv4.c.toNat * 256 + ipv4.d.toNat], true,
        ']' :: more) := by
    rw [readSegments]
    simp only [Bool.false_eq_true, if_false, readChar, if_true, Nat.zero_lt_succ,
      Ipv4Addr.read_append ipv4 hends]
  have hffff : readSegments 7 true
      ("ffff".toList ++ ':' :: (ipv4.text ++ ']' :: more)) =
      ([65535, ipv4.a.toNat * 256 + ipv4.b.toNat, ipv4.c.toNat * 256 + ipv4.d.toNat], true,
        ']' :: more) := by
    have hdelimited : Delimited (':' :: (ipv4.text ++ ']' :: more)) := ⟨':', _, rfl, .inl rfl⟩
    have hsegment : readSegments (6 + 1) true ([] ++ hexadecimal 65535 ++ _) = _ :=
      readSegments_segment true (by decide) hdelimited
    rw [htail] at hsegment
    exact hsegment
  have htext : "::ffff:".toList ++ ipv4.text ++ ']' :: more =
      ':' :: ':' :: ("ffff".toList ++ ':' :: (ipv4.text ++ ']' :: more)) := by
    simp
  rw [htext, readIpv6, readSegments_stop 8 true ⟨_, .inl rfl⟩]
  simp only [List.length_nil, Nat.reduceEqDiff, if_false, Bool.false_eq_true, readChar, if_true,
    Option.bind_eq_bind, Option.bind_some, Nat.reduceAdd, Nat.reduceSub, hffff]
  rw [← ofSegments_segments octets, hsegments]
  rfl

/-- The text of an IPv6 address is read back. -/
theorem readIpv6_text (octets : Arr 16) (more : List Char) :
    readIpv6 (ipv6Text octets ++ ']' :: more) = some (octets, ']' :: more) := by
  rw [ipv6Text]
  cases hmapped : toIpv4Mapped octets with
  | some ipv4 => exact readIpv6_mapped hmapped more
  | none =>
      have hlt := segments_lt octets
      have hlength := segments_length octets
      have hback := ofSegments_segments octets
      obtain ⟨before, after, hruns, hstart⟩ := zeroes_within (segments octets)
      set span := zeroes (segments octets)
      dsimp only
      by_cases hlong : 1 < span.len
      · -- The run is left out, and its length is that of what is missing.
        have hcount : before.length + span.len + after.length = 8 := by
          rw [← hlength, hruns]
          simp only [List.length_append, List.length_replicate]
        have hbefore : (segments octets).take span.start = before := by
          rw [hruns, List.append_assoc, List.take_left' hstart]
        have hafter : (segments octets).drop (span.start + span.len) = after := by
          rw [hruns]
          apply List.drop_left'
          rw [List.length_append, List.length_replicate, hstart]
        have hhead : ∀ s ∈ before, s < 2 ^ 16 := by
          intro s hs
          apply hlt
          rw [hruns]
          exact List.mem_append_left _ (List.mem_append_left _ hs)
        have htail : ∀ s ∈ after, s < 2 ^ 16 := by
          intro s hs
          apply hlt
          rw [hruns]
          exact List.mem_append_right _ hs
        rw [if_pos hlong, hbefore, hafter, List.append_assoc, List.cons_append, List.cons_append,
          readIpv6, readSegments_subsliceText hhead (by omega) ⟨_, .inl rfl⟩]
        have hshort : before.length ≠ 8 := by omega
        simp only [hshort, if_false, Bool.false_eq_true, readChar, if_true, Option.bind_eq_bind,
          Option.bind_some]
        rw [readSegments_subsliceText htail (by omega) ⟨more, .inr rfl⟩]
        have hmissing : 8 - before.length - after.length = span.len := by omega
        rw [hmissing, ← hruns, hback]
      · rw [if_neg hlong, readIpv6, readSegments_subsliceText hlt hlength.le ⟨more, .inr rfl⟩]
        dsimp only
        rw [if_pos hlength, hback]

/-- The text of a socket address is parsed back to the address. -/
theorem SocketAddr.parse_toString (addr : SocketAddr) : parse (toString addr) = some addr := by
  obtain ⟨ip, port⟩ := addr
  have htoList : (toString (⟨ip, port⟩ : SocketAddr)).toList = text ⟨ip, port⟩ :=
    String.toList_ofList
  rw [parse, htoList]
  cases ip with
  | v4 ip =>
      have hread : readV4 (text ⟨.v4 ip, port⟩) = some (⟨.v4 ip, port⟩, []) := by
        have hends : EndsNumber (':' :: decimal port.toNat) := endsDigits_cons rfl
        rw [readV4, text]
        simp only [Ipv4Addr.read_append ip hends, readPort_text, Option.bind_eq_bind,
          Option.bind_some, Option.pure_def]
      rw [hread]
      rfl
  | v6 octets =>
      -- A bracket starts no number.
      have hv4 : readV4 (text ⟨.v6 octets, port⟩) = none := rfl
      have hread : readV6 (text ⟨.v6 octets, port⟩) = some (⟨.v6 octets, port⟩, []) := by
        have hbracket (l : List Char) : readChar '[' ('[' :: l) = some l := rfl
        have hscope (l : List Char) : readChar ']' (skipScope (']' :: l)) = some l := rfl
        rw [readV6, text]
        simp only [hbracket, readIpv6_text, hscope, readPort_text, Option.bind_eq_bind,
          Option.bind_some, Option.pure_def]
      rw [hv4, hread]
      rfl

/-- The text of a socket address is accepted as one. -/
theorem SocketAddr.isSocketAddr_toString (addr : SocketAddr) :
    isSocketAddr (toString addr) = true := by
  rw [isSocketAddr_eq, parse_toString, Option.isSome_some]

end Rust
