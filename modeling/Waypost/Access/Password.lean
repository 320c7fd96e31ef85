import Waypost.Codec.Base64
import Waypost.Codec.Utf8
import Waypost.Digest.Argon2

/-!
# Passwords

A stored password is a text such as `$argon2id$v=19$m=65536,t=3,p=4$salt$hash`. `verify` computes
the hash again and compares. Anything that is not such a text does not match.
-/

namespace Waypost.Access.Password

open Codec Digest

/-- The parameters of new hashes. -/
def defaultCost : Argon2.Cost := ⟨.id, 19, 65536, 3, 4⟩

/-- The name of a variant in a stored password. -/
def variantName : Argon2.Variant → String
  | .d => "argon2d"
  | .i => "argon2i"
  | .id => "argon2id"

/-- The part of a stored password that gives the parameters. -/
def header (c : Argon2.Cost) : String :=
  "$" ++ variantName c.variant ++ "$v=" ++ toString c.version ++ "$m=" ++ toString c.memory ++
    ",t=" ++ toString c.passes
    ++ ",p=" ++ toString c.lanes

/-- A password that is empty. -/
structure Empty where
deriving DecidableEq, Repr

/-- The wording of the error. -/
def Empty.message (_ : Empty) : String := "Password must not be empty."

/-- What follows a text at the front. -/
def after? (word : String) (bs : Bytes) : Option Bytes :=
  let w := encodeUtf8 word
  if w.isPrefixOf bs then some (bs.drop w.length) else none

/-- A decimal number of 32 bits without leading zeros, and what follows it. -/
def number? (bs : Bytes) : Option (Nat × Bytes) :=
  let ds := bs.takeWhile fun b => 48 ≤ b && b ≤ 57
  let n := ds.foldl (fun v b => v * 10 + (b.toNat - 48)) 0
  if ds.isEmpty || (ds.head? = some 48 && ds.length ≠ 1) || Nat.pow 2 32 ≤ n then none
  else some (n, bs.drop ds.length)

/-- The variant that a stored password starts with. -/
def variant? (bs : Bytes) : Option Argon2.Variant :=
  if (after? "$argon2id" bs).isSome then some .id
  else if (after? "$argon2i$" bs).isSome then some .i
  else if (after? "$argon2d$" bs).isSome then some .d
  else none

/-- The parameters, the salt and the hash of a stored password. -/
def read? (bs : Bytes) : Option (Argon2.Cost × Bytes × Bytes) := do
  let bs := bs.takeWhile (· ≠ 0)
  let variant ← variant? bs
  let bs ← after? ("$" ++ variantName variant) bs
  let (version, bs) ←
    match after? "$v=" bs with
    | some rest => number? rest
    | none => some (0x10, bs)
  let (memory, bs) ← after? "$m=" bs >>= number?
  let (passes, bs) ← after? ",t=" bs >>= number?
  let (lanes, bs) ← after? ",p=" bs >>= number?
  let (salt, bs) ← after? "$" bs >>= Base64.decodeStrict .standard
  let (hash, bs) ← after? "$" bs >>= Base64.decodeStrict .standard
  if bs.isEmpty then return (⟨variant, version, memory, passes, lanes⟩, salt, hash) else none

/-- The most memory that a hash may ask for, in kibibytes. -/
def maxMemory : Nat := Nat.pow 2 22

/-- Whether the parameters are in range. -/
def isUsable (c : Argon2.Cost) (salt hash : Bytes) : Bool :=
  4 ≤ hash.length && 8 ≤ salt.length && 8 ≤ c.memory && 8 * c.lanes ≤ c.memory &&
    c.memory ≤ maxMemory && 1 ≤ c.passes
    && 1 ≤ c.lanes && c.lanes < Nat.pow 2 24

/-- Whether a password is the stored one. A stored password outside ASCII is an error. -/
def verify (password encoded : String) : Except EncodeError Bool :=
  if password.isEmpty || encoded.isEmpty then .ok false
  else
    match encode .ascii encoded with
    | .error e => .error e
    | .ok bs =>
      match read? bs with
      | none => .ok false
      | some (c, salt, hash) =>
        .ok (isUsable c salt hash && Argon2.hash c hash.length (encodeUtf8 password) salt == hash)

/-- The parameters under which a new password is stored. -/
def newHeader (password : String) : Except Empty String :=
  if password.isEmpty then .error {} else .ok (header defaultCost)

end Waypost.Access.Password
