import Mathlib.Data.String.Basic
import Naboscale.Rust.Bytes

/-!
# Addresses and clocks of the standard library

`std::time` and `std::net`: instants, addresses, and the text forms of addresses with the
parsers that read them.
-/

namespace Rust

/-- `std::time::Instant` and `Duration`: nanoseconds of the monotonic clock. -/
abbrev Instant := ℕ

/-- `Instant::duration_since`, which saturates at zero. -/
def Instant.durationSince (now earlier : Instant) : ℕ := now - earlier

/-- Nanoseconds in a second. -/
def second : ℕ := 1000000000

/-- `std::net::Ipv4Addr`, and the array `[u8; 4]` of its octets. -/
structure Ipv4Addr where
  a : UInt8
  b : UInt8
  c : UInt8
  d : UInt8
  deriving DecidableEq, Repr

/-- `std::net::IpAddr`. -/
inductive IpAddr where
  | v4 (ip : Ipv4Addr)
  | v6 (octets : Arr 16)
  deriving DecidableEq

/-- `std::net::SocketAddr`. -/
structure SocketAddr where
  ip : IpAddr
  port : UInt16
  deriving DecidableEq

/-! ## Numbers in text -/

/-- `char::to_digit`. -/
def toDigit (radix : ℕ) (c : Char) : Option ℕ :=
  let digit : Option ℕ :=
    if '0' ≤ c ∧ c ≤ '9' then some (c.toNat - '0'.toNat)
    else if 'a' ≤ c ∧ c ≤ 'z' then some (c.toNat - 'a'.toNat + 10)
    else if 'A' ≤ c ∧ c ≤ 'Z' then some (c.toNat - 'A'.toNat + 10)
    else none
  digit.filter (· < radix)

/-- The digits at the start of a text, and what follows them. -/
def readDigits (radix : ℕ) : List Char → List ℕ × List Char
  | [] => ([], [])
  | c :: text =>
      match toDigit radix c with
      | some digit => (digit :: (readDigits radix text).1, (readDigits radix text).2)
      | none => ([], c :: text)

/-- The number that digits write. -/
def ofDigits (radix : ℕ) (digits : List ℕ) : ℕ := digits.foldl (fun n digit => n * radix + digit) 0

/-- `read_number` of the address parsers: a number below a bound, and what follows it. -/
def readNumber (radix : ℕ) (maxDigits : Option ℕ) (allowZeroPrefix : Bool) (bound : ℕ)
    (text : List Char) : Option (ℕ × List Char) :=
  let (digits, rest) := readDigits radix text
  if digits = [] ∨ maxDigits.any (fun most => decide (most < digits.length)) ∨
      (allowZeroPrefix = false ∧ digits.head? = some 0 ∧ 1 < digits.length) ∨
      bound ≤ ofDigits radix digits then none
  else some (ofDigits radix digits, rest)

/-- `read_given_char`. -/
def readChar (c : Char) : List Char → Option (List Char)
  | first :: text => if first = c then some text else none
  | [] => none

/-- `u8::from_str`. -/
def parseU8 (text : List Char) : Option UInt8 :=
  let digits := (readChar '+' text).getD text
  match readNumber 10 none true 256 digits with
  | some (n, []) => some (UInt8.ofNat n)
  | _ => none

/-! ## IPv4 addresses -/

/-- A number in decimal. -/
def decimal (n : ℕ) : List Char := Nat.toDigits 10 n

namespace Ipv4Addr

/-- `octets`. -/
def octets (ip : Ipv4Addr) : Arr 4 := ⟨[ip.a, ip.b, ip.c, ip.d], rfl⟩

/-- `Ipv4Addr::UNSPECIFIED`. -/
def unspecified : Ipv4Addr := ⟨0, 0, 0, 0⟩

/-- The characters of `a.b.c.d`. -/
def text (ip : Ipv4Addr) : List Char :=
  decimal ip.a.toNat ++ '.' :: (decimal ip.b.toNat ++ '.' :: (decimal ip.c.toNat ++ '.' ::
    decimal ip.d.toNat))

instance : ToString Ipv4Addr where
  toString ip := String.ofList ip.text

/-- `read_ipv4_addr`. -/
def read (text : List Char) : Option (Ipv4Addr × List Char) := do
  let (a, text) ← readNumber 10 (some 3) false 256 text
  let text ← readChar '.' text
  let (b, text) ← readNumber 10 (some 3) false 256 text
  let text ← readChar '.' text
  let (c, text) ← readNumber 10 (some 3) false 256 text
  let text ← readChar '.' text
  let (d, text) ← readNumber 10 (some 3) false 256 text
  pure (⟨UInt8.ofNat a, UInt8.ofNat b, UInt8.ofNat c, UInt8.ofNat d⟩, text)

/-- `Ipv4Addr::from_str`. -/
def parse (s : String) : Option Ipv4Addr :=
  if 15 < s.utf8ByteSize then none
  else
    match read s.toList with
    | some (ip, []) => some ip
    | _ => none

/-- `u32::from_be_bytes`. -/
def toU32 (ip : Ipv4Addr) : ℕ :=
  ((ip.a.toNat * 256 + ip.b.toNat) * 256 + ip.c.toNat) * 256 + ip.d.toNat

/-- `to_be_bytes` of a `u32`. -/
def ofU32 (n : ℕ) : Ipv4Addr :=
  ⟨UInt8.ofNat (n / 256 ^ 3), UInt8.ofNat (n / 256 ^ 2), UInt8.ofNat (n / 256), UInt8.ofNat n⟩

end Ipv4Addr

/-- `is_unspecified`. -/
def IpAddr.isUnspecified : IpAddr → Bool
  | v4 ip => ip = .unspecified
  | v6 octets => octets = Arr.zeros 16

/-! ## Socket addresses -/

/-- `read_groups` of the IPv6 parser: at most `limit` groups. The result is the number of groups
read, whether the last two were an IPv4 address, and what follows them. -/
def readGroups : ℕ → Bool → List Char → ℕ × Bool × List Char
  | 0, _, text => (0, false, text)
  | limit + 1, isFirst, text =>
      match if isFirst then some text else readChar ':' text with
      | none => (0, false, text)
      | some inner =>
          match if 0 < limit then Ipv4Addr.read inner else none with
          | some (_, rest) => (2, true, rest)
          | none =>
              match readNumber 16 (some 4) true (2 ^ 16) inner with
              | none => (0, false, text)
              | some (_, rest) =>
                  let (groups, embedded, rest) := readGroups limit false rest
                  (groups + 1, embedded, rest)

/-- `read_ipv6_addr`, without its value: what follows the address. -/
def skipIpv6 (text : List Char) : Option (List Char) :=
  let (groups, embedded, rest) := readGroups 8 true text
  if groups = 8 then some rest
  else if embedded then none
  else do
    let rest ← readChar ':' rest
    let rest ← readChar ':' rest
    some (readGroups (8 - (groups + 1)) true rest).2.2

/-- `read_port`, without its value. -/
def skipPort (text : List Char) : Option (List Char) := do
  let text ← readChar ':' text
  let (_, text) ← readNumber 10 none true (2 ^ 16) text
  pure text

/-- `read_scope_id` where there is one, without its value. -/
def skipScope (text : List Char) : List Char :=
  match readChar '%' text with
  | some inner => ((readNumber 10 none true (2 ^ 32) inner).map Prod.snd).getD text
  | none => text

/-- Whether `SocketAddr::from_str` accepts the text. -/
def isSocketAddr (s : String) : Bool :=
  let v4 : Option (List Char) := do
    let (_, text) ← Ipv4Addr.read s.toList
    skipPort text
  let v6 : Option (List Char) := do
    let text ← readChar '[' s.toList
    let text ← skipIpv6 text
    let text ← readChar ']' (skipScope text)
    skipPort text
  v4.or v6 = some []

example : isSocketAddr "10.0.0.1:51820" = true ∧ isSocketAddr "[fe80::1%2]:80" = true ∧
    isSocketAddr "[::ffff:1.2.3.4]:80" = true ∧ isSocketAddr "10.0.0.01:1" = false ∧
    isSocketAddr "[1::2::3]:80" = false := by
  decide +kernel

/-! ## Round trips -/

/-- What may follow a number: nothing, or a character that is no digit. -/
def EndsNumber (rest : List Char) : Prop := ∀ c ∈ rest.head?, toDigit 10 c = none

theorem endsNumber_nil : EndsNumber [] := fun _ h => nomatch h

theorem endsNumber_dot (rest : List Char) : EndsNumber ('.' :: rest) := by
  intro c hc
  cases hc
  decide

/-- Digits are read up to the end of the number. -/
theorem readDigits_append {l rest : List Char} (hl : (readDigits 10 l).2 = [])
    (hrest : EndsNumber rest) :
    readDigits 10 (l ++ rest) = ((readDigits 10 l).1, rest) := by
  induction l with
  | nil =>
      cases rest with
      | nil => rfl
      | cons c rest => simp [readDigits, hrest c rfl]
  | cons c l ih =>
      cases hdigit : toDigit 10 c with
      | none => simp [readDigits, hdigit] at hl
      | some digit =>
          rw [readDigits, hdigit] at hl
          simp [readDigits, hdigit, ih hl]

/-- The decimal text of an octet, checked for each of them. -/
structure OctetText (n : ℕ) : Prop where
  rest : (readDigits 10 (decimal n)).2 = []
  nonempty : (readDigits 10 (decimal n)).1 ≠ []
  short : (readDigits 10 (decimal n)).1.length ≤ 3
  leading : (readDigits 10 (decimal n)).1.head? = some 0 →
    (readDigits 10 (decimal n)).1.length ≤ 1
  value : ofDigits 10 (readDigits 10 (decimal n)).1 = n
  plus : readChar '+' (decimal n) = none
  dot : '.' ∉ decimal n
  size : String.utf8Len (decimal n) ≤ 3

theorem octetText {n : ℕ} (h : n < 256) : OctetText n := by
  have hall : ∀ n : Fin 256, (readDigits 10 (decimal n)).2 = [] ∧
      (readDigits 10 (decimal n)).1 ≠ [] ∧ (readDigits 10 (decimal n)).1.length ≤ 3 ∧
      ((readDigits 10 (decimal n)).1.head? = some 0 →
        (readDigits 10 (decimal n)).1.length ≤ 1) ∧
      ofDigits 10 (readDigits 10 (decimal n)).1 = n ∧ readChar '+' (decimal n) = none ∧
      '.' ∉ decimal n ∧ String.utf8Len (decimal n) ≤ 3 := by
    decide +kernel
  obtain ⟨hrest, hnonempty, hshort, hleading, hvalue, hplus, hdot, hsize⟩ := hall ⟨n, h⟩
  exact ⟨hrest, hnonempty, hshort, hleading, hvalue, hplus, hdot, hsize⟩

/-- The number of an octet is read back from its text. -/
theorem readNumber_decimal {n : ℕ} (h : n < 256) {rest : List Char} (hrest : EndsNumber rest) :
    readNumber 10 (some 3) false 256 (decimal n ++ rest) = some (n, rest) := by
  have htext := octetText h
  have hshort := htext.short
  have hleading := htext.leading
  rw [readNumber, readDigits_append htext.rest hrest]
  simp only [htext.value]
  rw [if_neg]
  rintro (hnil | hlong | ⟨-, hzero, hone⟩ | hbound)
  · exact htext.nonempty hnil
  · have hlong : 3 < (readDigits 10 (decimal n)).1.length := of_decide_eq_true hlong
    omega
  · have := hleading hzero
    omega
  · omega

/-- An octet is read back from its text. -/
theorem parseU8_decimal (b : UInt8) : parseU8 (decimal b.toNat) = some b := by
  have htext := octetText b.toNat_lt
  have hread : readDigits 10 (decimal b.toNat) = ((readDigits 10 (decimal b.toNat)).1, []) :=
    Prod.ext rfl htext.rest
  have hbound := b.toNat_lt
  rw [parseU8, htext.plus, Option.getD_none, readNumber, hread]
  simp only [htext.value]
  rw [if_neg]
  · simp
  · rintro (hnil | hlong | ⟨hfalse, _⟩ | hge)
    · exact htext.nonempty hnil
    · cases hlong
    · cases hfalse
    · omega

namespace Ipv4Addr

theorem read_text (ip : Ipv4Addr) : read ip.text = some (ip, []) := by
  have hlast : decimal ip.d.toNat = decimal ip.d.toNat ++ [] := (List.append_nil _).symm
  have hdot (l : List Char) : readChar '.' ('.' :: l) = some l := rfl
  rw [read, text, hlast]
  simp only [readNumber_decimal ip.a.toNat_lt (endsNumber_dot _),
    readNumber_decimal ip.b.toNat_lt (endsNumber_dot _),
    readNumber_decimal ip.c.toNat_lt (endsNumber_dot _),
    readNumber_decimal ip.d.toNat_lt endsNumber_nil, hdot, Option.bind_eq_bind,
    Option.bind_some, UInt8.ofNat_toNat, Option.pure_def]

/-- The text of an address is parsed back to the address. -/
theorem parse_toString (ip : Ipv4Addr) : parse (toString ip) = some ip := by
  have hsize : (toString ip).utf8ByteSize ≤ 15 := by
    show (String.ofList ip.text).utf8ByteSize ≤ 15
    have ha := (octetText ip.a.toNat_lt).size
    have hb := (octetText ip.b.toNat_lt).size
    have hc := (octetText ip.c.toNat_lt).size
    have hd := (octetText ip.d.toNat_lt).size
    have hdot : Char.utf8Size '.' = 1 := by decide
    rw [String.utf8ByteSize_ofList, text]
    simp only [String.utf8Len_append, String.utf8Len_cons, hdot]
    omega
  have htoList : (toString ip).toList = ip.text := String.toList_ofList
  rw [parse, if_neg (not_lt.2 hsize), htoList, read_text]

theorem toString_injective {ip ip' : Ipv4Addr} (h : toString ip = toString ip') : ip = ip' := by
  have hparse := parse_toString ip
  rw [h, parse_toString] at hparse
  exact (Option.some.inj hparse).symm

theorem toU32_lt (ip : Ipv4Addr) : ip.toU32 < 2 ^ 32 := by
  have ha := ip.a.toNat_lt
  have hb := ip.b.toNat_lt
  have hc := ip.c.toNat_lt
  have hd := ip.d.toNat_lt
  rw [toU32]
  omega

/-- A `u32` is read back from its bytes. -/
theorem toU32_ofU32 {n : ℕ} (h : n < 2 ^ 32) : (ofU32 n).toU32 = n := by
  simp only [ofU32, toU32, UInt8.toNat_ofNat']
  omega

theorem ofU32_toU32 (ip : Ipv4Addr) : ofU32 ip.toU32 = ip := by
  have ha := ip.a.toNat_lt
  have hb := ip.b.toNat_lt
  have hc := ip.c.toNat_lt
  have hd := ip.d.toNat_lt
  have hbytes {n : ℕ} {b : UInt8} (h : n % 256 = b.toNat) : UInt8.ofNat n = b := by
    apply UInt8.toNat_inj.1
    rw [UInt8.toNat_ofNat', h]
  rw [ofU32, toU32]
  congr 1 <;> exact hbytes (by omega)

theorem toU32_injective : Function.Injective toU32 := by
  intro ip ip' h
  rw [← ofU32_toU32 ip, h, ofU32_toU32]

end Ipv4Addr

end Rust
