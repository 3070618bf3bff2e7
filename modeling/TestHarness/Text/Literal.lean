import TestHarness.Text.Coded
import TestHarness.Text.Utf8

/-!
# Quoted literals

A literal is a text between double quotes in which every character can be told apart: the quote and
the backslash follow a backslash, a few controls have a letter, every other character without a
shape of its own is written by its code, and a broken octet by two digits.
-/

namespace TestHarness.Literal

open Utf8 (Piece)

/-- The letter after the backslash, for the characters that have one. -/
def letter? (c : Char) : Option Char :=
  if c = '\x22' || c = '\x5c' then some c
  else if c = '\n' then some 'n'
  else if c = '\x0d' then some 'r'
  else if c = '\t' then some 't'
  else if c = '\x00' then some '0'
  else none

/-- Lower-case hexadecimal digits without leading zeros. -/
def code (n : Nat) : List Char := Nat.toDigits 16 n

def escape (c : Char) : List Char :=
  match letter? c with
  | some l => ['\x5c', l]
  | none =>
      if Text.isCoded c then ['\x5c', 'u', '\x7b'] ++ code c.toNat ++ ['\x7d'] else [c]

/-- One of sixteen digits, upper case. -/
def upperDigit (n : Nat) : Char := (Nat.digitChar n).toUpper

/-- An octet that belongs to no character. -/
def escapeOctet (octet : UInt8) : List Char :=
  ['\x5c', 'x', upperDigit (octet.toNat / 16), upperDigit (octet.toNat % 16)]

def escapePiece : Piece → List Char
  | .char c => escape c
  | .broken octets => octets.flatMap escapeOctet

def enclose (body : List Char) : List Char := '\x22' :: body ++ ['\x22']

def ofText (text : List Char) : List Char := enclose (text.flatMap escape)

def ofOctets (octets : List UInt8) : List Char :=
  enclose ((Utf8.pieces octets).flatMap escapePiece)

end TestHarness.Literal
