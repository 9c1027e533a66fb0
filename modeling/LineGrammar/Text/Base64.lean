/-
Octets written in characters of six bits, four characters for three octets.

Reading passes over characters that stand for no bits. Equals signs fill up the last group, and what is behind a full
group is not looked at any more.
-/

namespace LineGrammar

/-- the six bits that a character stands for -/
def sixBits? (c : Char) : Option Nat :=
  if 'A' ≤ c && c ≤ 'Z' then some (c.toNat - 'A'.toNat)
  else if 'a' ≤ c && c ≤ 'z' then some (c.toNat - 'a'.toNat + 26)
  else if '0' ≤ c && c ≤ '9' then some (c.toNat - '0'.toNat + 52)
  else if c == '+' then some 62
  else if c == '/' then some 63
  else none

/-- The octets of a text from some character on. Of the group there, `place` characters have been read, `held` are the
bits of them that are left over, and `fill` equals signs are behind them. -/
def octetsFrom (place held fill : Nat) : List Char → Option (List UInt8)
  | [] => if place == 0 then some [] else none
  | c :: rest =>
    if c == '=' then
      if place < 2 then octetsFrom place held fill rest
      else if place + fill + 1 < 4 then octetsFrom place held (fill + 1) rest
      else some []
    else
      match sixBits? c with
      | none => octetsFrom place held fill rest
      | some bits =>
        let left := Nat.pow 4 (3 - place)
        if place == 0 then octetsFrom 1 bits 0 rest
        else
          let octet := UInt8.ofNat (held * Nat.pow 4 place + bits / left)
          (octetsFrom ((place + 1) % 4) (bits % left) 0 rest).map (octet :: ·)

/-- the octets of a text, unless its last group is not full -/
def octets? (text : List Char) : Option (List UInt8) :=
  octetsFrom 0 0 0 text

end LineGrammar
