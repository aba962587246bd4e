/-
Finding, splitting and replacing inside texts.

Everything works on lists of units, so that texts and bytes share it.
-/
import Marginalia.Text.Digits

namespace Marginalia

namespace Search

variable {α : Type} [BEq α]

/-- The first place at which a part occurs. -/
def find? (part : List α) : List α → Option Nat
  | [] => if part.isEmpty then some 0 else none
  | x :: xs =>
    if part.isPrefixOf (x :: xs) then some 0 else (find? part xs).map (· + 1)

/-- What stands before and behind the first occurrence of a part. -/
def cut? (part : List α) : List α → Option (List α × List α)
  | [] => if part.isEmpty then some ([], []) else none
  | x :: xs =>
    if part.isPrefixOf (x :: xs) then some ([], (x :: xs).drop part.length)
    else (cut? part xs).map fun (a, b) => (x :: a, b)

/-- Splits at occurrences of a part that is not empty, at most `limit` times; `fuel`
bounds the number of pieces. -/
def splitAt (part : List α) : Nat → Option Nat → List α → List (List α)
  | 0, _, xs => [xs]
  | _ + 1, some 0, xs => [xs]
  | fuel + 1, limit, xs =>
    match cut? part xs with
    | none => [xs]
    | some (a, b) => a :: splitAt part fuel (limit.map (· - 1)) b

/-- Splits everywhere, or at most so many times. -/
def split (part : List α) (limit : Option Nat) (xs : List α) : List (List α) :=
  splitAt part (xs.length + 1) limit xs

/-- How often a part that is not empty occurs, without overlaps. -/
def count (part : List α) (xs : List α) : Nat := (split part none xs).length - 1

/-- Puts a part before each unit and at the end, at most so many times. -/
def interleave (part : List α) : Option Nat → List α → List α
  | some 0, xs => xs
  | _, [] => part
  | limit, x :: xs => part ++ x :: interleave part (limit.map (· - 1)) xs

/-- Replaces occurrences of a part, at most so many times; an empty part stands
between any two units and at the ends. -/
def replace (part new : List α) (limit : Option Nat) (xs : List α) : List α :=
  if part.isEmpty then interleave new limit xs
  else new.intercalate (split part limit xs)

/-- Drops units at the ends. -/
def strip (drop : α → Bool) (xs : List α) : List α :=
  ((xs.dropWhile drop).reverse.dropWhile drop).reverse

/-- Splits at runs of blanks, at most so many times; `fuel` bounds the number of pieces. -/
def wordsFrom : Nat → Option Nat → List Char → List (List Char)
  | 0, _, _ => []
  | fuel + 1, limit, cs =>
    match cs.dropWhile isBlank with
    | [] => []
    | c :: rest =>
      if limit = some 0 then [c :: rest]
      else
        let word := (c :: rest).takeWhile fun c => !isBlank c
        word :: wordsFrom fuel (limit.map (· - 1)) ((c :: rest).dropWhile fun c => !isBlank c)

/-- The words of a text. -/
def words (limit : Option Nat) (cs : List Char) : List (List Char) :=
  wordsFrom (cs.length + 1) limit cs

end Search

end Marginalia
