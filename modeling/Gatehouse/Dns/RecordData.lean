import Gatehouse.Dns.Authorization
import Gatehouse.Dns.Cursor
import Gatehouse.Dns.ServiceBinding

/-!
The data of records. The server does not use it, but a message is well formed only if the data of all of its
records is.
-/

namespace Gatehouse.Dns

def kindOpt : Nat := 41

/-! ## Strings -/

def skipString (c : Cursor) : Option Cursor := c.string?.map (·.2)

/-- Passes over strings up to a place; `fuel` bounds their number. -/
def skipStrings (stop : Nat) : Nat → Cursor → Option Cursor
  | 0, c => some c
  | fuel + 1, c =>
    if stop ≤ c.position then some c
    else do
      let c ← skipString c
      skipStrings stop fuel c

/-! ## Extension records -/

/-- Whether the data of a client-subnet option can be read: a known address family, and an address with as
many bytes as the source mask asks for, which are no more than addresses of the family have. -/
def isClientSubnet (data : Bytes) : Bool :=
  match data with
  | hi :: lo :: source :: _ :: address =>
    let family := 256 * hi.toNat + lo.toNat
    let wanted := (source.toNat + 7) / 8
    wanted ≤ address.length && ((family == 1 && wanted ≤ 4) || (family == 2 && wanted ≤ 16))
  | _ => false

/-- Passes over the options of an extension record up to a place; `fuel` bounds their number. The last
option may be cut short by the end of the record. -/
def skipOptions (stop limit : Nat) : Nat → Cursor → Option Cursor
  | 0, c => some c
  | fuel + 1, c =>
    if stop ≤ c.position then some c
    else do
      let (code, c) ← c.word?
      if stop ≤ c.position then pure c
      else
        let (length, c) ← c.word?
        if limit < length then none
        else if length = 0 then
          if code = 8 then none else skipOptions stop limit fuel c
        else
          let within := min length (stop - c.position)
          let (data, c) ← c.take? within
          if within = length ∧ code = 8 ∧ isClientSubnet data = false then none
          else skipOptions stop limit fuel c

/-! ## Sets of record types -/

/-- Where the reading of a set of record types stands: before a block of 256 types, before the length of its
bitmap, or within a bitmap of `size` bytes of which `left` are left. -/
inductive BitmapSpot where
  | block
  | length
  | bitmap (size left : Nat)

/-- Where the reading stands after one more byte. A bitmap has at least one byte, and no bits for types
beyond its block. -/
def BitmapSpot.next? (spot : BitmapSpot) (b : UInt8) : Option BitmapSpot :=
  match spot with
  | block => some length
  | length => some (bitmap b.toNat b.toNat)
  | bitmap size left =>
    if left = 0 ∨ (32 ≤ size - left ∧ b ≠ 0) then none
    else if left = 1 then some block
    else some (bitmap size (left - 1))

/-- Whether bytes are the data of a record that tells which records a parent zone takes over: a serial
number, two flags and a set of record types. -/
def isSynchronisation (data : Bytes) : Bool :=
  match data with
  | _ :: _ :: _ :: _ :: _ :: flags :: types =>
    flags < 4 && (types.foldlM BitmapSpot.next? .block).isSome
  | _ => false

/-! ## Other records with fields -/

/-- Passes over the data of a record that rewrites names: two numbers, flags, which are letters and digits,
two strings and a name. -/
def skipPointer (message : Bytes) (c : Cursor) : Option Cursor := do
  let c ← c.skip? 4
  let (flags, c) ← c.string?
  if flags.all fun b => b < 128 && (Char.ofNat b.toNat).isAlphanum then
    let c ← skipString c
    let c ← skipString c
    skipName message c
  else none

/-- Passes over the parameters of a service up to a place, each key greater than the one before it, which
`least` exceeds by one; `fuel` bounds their number. -/
def skipParameters (stop : Nat) : Nat → Nat → Cursor → Option Cursor
  | 0, _, c => some c
  | fuel + 1, least, c =>
    if stop < c.position + 4 then some c
    else do
      let (key, c) ← c.word?
      let (length, c) ← c.word?
      let (value, c) ← c.take? length
      if least ≤ key ∧ ServiceBinding.isValue key value then skipParameters stop fuel (key + 1) c
      else none

/-- Passes over the data of a record that tells how a service is reached: a number, a name and
parameters. -/
def skipService (message : Bytes) (stop length : Nat) (c : Cursor) : Option Cursor := do
  let c ← c.skip? 2
  let c ← skipName message c
  skipParameters stop length 0 c

/-- Passes over the data of a record that tells who may issue certificates. -/
def skipAuthorization (length : Nat) (c : Cursor) : Option Cursor := do
  let (_, c) ← c.byte?
  let (tagLength, c) ← c.byte?
  if length < tagLength + 2 then none
  else
    let (tag, c) ← c.take? tagLength
    let (value, c) ← c.take? (length - 2 - tagLength)
    if Authorization.isTag tag ∧ Authorization.isValue tag value then some c else none

/-! ## All records -/

def skipIf (form : Bytes → Bool) (length : Nat) (c : Cursor) : Option Cursor :=
  match c.take? length with
  | some (data, c) => if form data then some c else none
  | none => none

/-- Passes over the data of a record of this type, which takes `length` bytes. There is no data for type 0
and for the types that only questions have. -/
def skipData (message : Bytes) (kind length : Nat) (c : Cursor) : Option Cursor :=
  let stop := c.position + length
  if kind = 0 ∨ kind = 251 ∨ kind = 252 ∨ kind = 255 then none
  else if kind = 1 then c.skip? 4
  else if kind = 28 then c.skip? 16
  else if kind = 2 ∨ kind = 5 ∨ kind = 12 ∨ kind = 65305 then skipName message c
  else if kind = 15 then (c.skip? 2).bind (skipName message)
  else if kind = 33 then (c.skip? 6).bind (skipName message)
  else if kind = 6 then do
    let c ← skipName message c
    let c ← skipName message c
    c.skip? 20
  else if kind = 13 then (skipString c).bind skipString
  else if kind = 16 then skipStrings stop length c
  else if kind = 35 then skipPointer message c
  else if kind = kindOpt then skipOptions stop length length c
  else if kind = 44 then skipIf (2 ≤ ·.length) length c
  else if kind = 52 then skipIf (3 ≤ ·.length) length c
  else if kind = 62 then skipIf isSynchronisation length c
  else if kind = 64 ∨ kind = 65 then skipService message stop length c
  else if kind = 257 then skipAuthorization length c
  else c.skip? length

end Gatehouse.Dns
