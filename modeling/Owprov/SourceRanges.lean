import Owprov.Lib.WordNumbers
import Owprov.Lib.OptionLists
import Owprov.Connections
import Owprov.SerialNumbers

/-!
# Ranges of source addresses

An entity or a venue takes the devices that connect from its `sourceIP` ranges.  A range is
checked by `CIDR::ValidateRange` when it is stored and read again by `CIDR::IpInRange` at each
connection.  The parser of addresses is a parameter.
-/

namespace Owprov.CIDR

open RowTable WordNumbers

/-! ## Addresses -/

inductive Family where
  | ipv4
  | ipv6
  deriving DecidableEq, Repr

/-- The number of 32 bit words of an address. -/
def Family.words : Family → ℕ
  | .ipv4 => 1
  | .ipv6 => 4

/-- The number of bits of an address. -/
def Family.width (family : Family) : ℕ :=
  32 * family.words

/-- `Poco::Net::IPAddress`: the words in network order, without a scope. -/
structure IPAddress where
  family : Family
  words : List (BitVec 32)
  size : words.length = family.words
  deriving DecidableEq

namespace IPAddress

def value (address : IPAddress) : ℕ :=
  number address.words

/-- The wildcard address that the default constructor makes. -/
def wildcard : IPAddress where
  family := .ipv4
  words := [0]
  size := rfl

/-- An address is below another of its family as a number; a shorter one is below a longer one. -/
def le (a b : IPAddress) : Bool :=
  if a.family = b.family then decide (a.value ≤ b.value) else decide (a.family = .ipv4)

end IPAddress

/-- What a check ends with instead of an answer. -/
inductive Fault where
  /-- A Poco exception. -/
  | thrown
  /-- Undefined behaviour: memory beyond an address, or a shift beyond a word. -/
  | undefined
  deriving DecidableEq, Repr

/-! ## Numbers in texts -/

/-- `strtol` in base 10, when it reads a digit. -/
def strtol (text : String) : Option ℤ :=
  let (negative, unsigned) := signOf (text.toList.dropWhile isSpace)
  let digits := unsigned.takeWhile Char.isDigit
  if digits = [] then
    none
  else
    let magnitude : ℤ := Nat.ofDigitChars 10 digits 0
    some (if negative then max (-magnitude) (-2 ^ 63) else min magnitude (2 ^ 63 - 1))

/-- `std::atoi`. -/
def atoi (text : String) : ℤ :=
  ((strtol text).getD 0).bmod (2 ^ 32)

/-- `ConvertStringToLong`, as the length of a mask: an unsigned byte. -/
def maskLength (text : String) : Option ℕ :=
  (strtol text).map fun value => (value % 256).toNat

/-! ## The functions of `CIDR` -/

/-- `0xFFFFFFFF << (32 - bits)`. -/
def mask (bits : ℕ) : BitVec 32 :=
  BitVec.allOnes 32 <<< (32 - bits)

def cidrMatch (addr net : BitVec 32) (bits : ℕ) : Except Fault Bool :=
  if bits = 0 then .ok true
  else if 32 < bits then .error .undefined
  else .ok (decide ((addr ^^^ net) &&& mask bits = 0))

/-- A word of an address; beyond its last word there is other memory. -/
def readWord (address : IPAddress) (index : ℕ) : Except Fault (BitVec 32) :=
  match address.words[index]? with
  | some word => .ok word
  | none => .error .undefined

/-- `memcmp` on the first words of two addresses. -/
def sameWords (address network : IPAddress) (count : ℕ) : Except Fault Bool :=
  if count ≤ address.words.length ∧ count ≤ network.words.length then
    .ok (decide (address.words.take count = network.words.take count))
  else
    .error .undefined

/-- The whole words that the bits cover. -/
def matchWhole (address network : IPAddress) (bits : ℕ) : Except Fault Bool :=
  if bits / 32 = 0 then .ok true else sameWords address network (bits / 32)

/-- The word that the bits cover in part. -/
def matchPart (address network : IPAddress) (bits : ℕ) : Except Fault Bool :=
  if bits % 32 = 0 then
    .ok true
  else do
    let a ← readWord address (bits / 32)
    let n ← readWord network (bits / 32)
    .ok (decide ((a ^^^ n) &&& mask (bits % 32) = 0))

def cidr6Match (address network : IPAddress) (bits : ℕ) : Except Fault Bool := do
  let whole ← matchWhole address network bits
  if whole then matchPart address network bits else .ok false

section Ranges

variable (parse : String → Option IPAddress)

/-- `IPAddress::parse`, which throws where `tryParse` answers false. -/
def parseOrThrow (text : String) : Except Fault IPAddress :=
  match parse text with
  | some address => .ok address
  | none => .error .thrown

/-- `CidrIPinRange` on the two tokens of a range. -/
def cidrIPinRange (ip : IPAddress) (address bits : String) : Except Fault Bool :=
  match parse (trim address), maskLength (trim bits) with
  | some rangeIP, some length =>
      match rangeIP.family with
      | .ipv4 => do
          let addr ← readWord rangeIP 0
          let net ← readWord ip 0
          cidrMatch addr net length
      | .ipv6 => cidr6Match rangeIP ip length
  | _, _ => .ok false

/-- `ValidateRange` on a list, a block or a single address. -/
def validateOther (range : String) : Bool :=
  if 1 < (tokenize range ',').length then
    (tokenize range ',').all fun token => (parse token).isSome
  else
    match tokenize range '/' with
    | [address, bits] => (parse address).isSome && atoi bits != 0
    | _ => (parse range).isSome

/-- An end of an interval that is no address stays the wildcard address. -/
def validateRange (range : String) : Bool :=
  match tokenize range '-' with
  | [first, last] =>
      if (parse first).isNone ∧ (parse last).isSome then
        false
      else
        ((parse first).getD .wildcard).family = ((parse last).getD .wildcard).family
  | _ => validateOther parse range

/-- `std::any_of` with a predicate that may end with a fault. -/
def anyOf {α : Type} (test : α → Except Fault Bool) : List α → Except Fault Bool
  | [] => .ok false
  | item :: items => do
      let found ← test item
      if found then .ok true else anyOf test items

/-- `IpInRange` on a list, a block or a single address. -/
def ipInOther (target : IPAddress) (range : String) : Except Fault Bool :=
  if 1 < (tokenize range ',').length then
    anyOf (fun token => do
      let address ← parseOrThrow parse token
      .ok (decide (address = target))) (tokenize range ',')
  else
    match tokenize range '/' with
    | [address, bits] => cidrIPinRange parse target address bits
    | _ => do
        let address ← parseOrThrow parse range
        .ok (decide (address = target))

def ipInRange (target : IPAddress) (range : String) : Except Fault Bool :=
  match tokenize range '-' with
  | [first, last] => do
      let a ← parseOrThrow parse first
      let b ← parseOrThrow parse last
      if target.family ≠ a.family then .ok false
      else .ok (a.le target && target.le b)
  | _ => ipInOther parse target range

def ipInRanges (ip : String) (ranges : List String) : Except Fault Bool :=
  match parse ip with
  | none => .ok false
  | some target => anyOf (ipInRange parse target) ranges

def validateIpRanges (ranges : List String) : Bool :=
  ranges.all (validateRange parse)

end Ranges

/-! ## What a range denotes -/

/-- The number that a text of digits spells. -/
def decimal (text : String) : Option ℕ :=
  if text ≠ "" ∧ text.toList.all Char.isDigit then
    some (Nat.ofDigitChars 10 text.toList 0)
  else
    none

/-- The addresses of an interval, its ends included. -/
def interval (first last : IPAddress) : Set IPAddress :=
  { target | target.family = first.family ∧
    first.value ≤ target.value ∧ target.value ≤ last.value }

/-- The addresses that have a number of leading bits in common with one of them. -/
def block (address : IPAddress) (length : ℕ) : Set IPAddress :=
  { target | target.family = address.family ∧
    address.value / 2 ^ (address.family.width - length) =
      target.value / 2 ^ (address.family.width - length) }

instance (target address : IPAddress) (length : ℕ) : Decidable (target ∈ block address length) :=
  inferInstanceAs (Decidable (_ ∧ _))

/-- The addresses that a list, a block or a single address stands for. -/
def denotedOther (parse : String → Option IPAddress) (range : String) : Option (Set IPAddress) :=
  if 1 < (tokenize range ',').length then
    ((tokenize range ',').mapM parse).map fun addresses => { target | target ∈ addresses }
  else
    match tokenize range '/' with
    | [address, bits] => do
        let network ← parse (trim address)
        let length ← decimal (trim bits)
        if length ≤ network.family.width then some (block network length) else none
    | _ => (parse range).map fun address => {address}

/-- The addresses that a range stands for: an interval, a list, a block or a single address. -/
def denoted (parse : String → Option IPAddress) (range : String) : Option (Set IPAddress) :=
  match tokenize range '-' with
  | [first, last] => do
      let a ← parse first
      let b ← parse last
      if a.family = b.family then some (interval a b) else none
  | _ => denotedOther parse range

/-- The check of an address answers whether the range denotes it. -/
def Agrees (parse : String → Option IPAddress) (range : String) (target : IPAddress) : Prop :=
  ∃ addresses ∈ denoted parse range, ∃ answer,
    ipInRange parse target range = .ok answer ∧ (answer = true ↔ target ∈ addresses)

section Forms

variable {parse : String → Option IPAddress} {target : IPAddress}

end Forms

section Places

variable {parse : String → Option IPAddress} {target : IPAddress}

end Places

end Owprov.CIDR
