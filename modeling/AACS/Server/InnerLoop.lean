import AACS.Server.Pump

/-!
The inner loop of `dataPump`, with its locals.

`start` and `length` are signed. What `checkError` makes of the result of `writeFun` is
added to the one and taken off the other, whatever it is.
-/

namespace AACS

namespace AAServer

/-- The locals of the inner loop: where in the buffer the rest of the chunk begins, and how
long it is. -/
structure Part where
  start : Int
  length : Int
  deriving DecidableEq, Repr

def Part.advance (part : Part) (partLength : Int) : Part where
  start := part.start + partLength
  length := part.length - partLength

/-- A call of `writeFun` with a part of the buffer: it returns a number, which comes with an
`errno`, or throws. -/
abbrev WriteFun (τ : Type) := τ → Part → τ × Except Thrown (Int × Nat)

/-- The loop goes on, or is left by an exception or because the thread was told to end. -/
inductive Pass where
  | again (part : Part)
  | left (result : Except Thrown Bool)

variable {τ : Type}

def pass (writeFun : WriteFun τ) (checkTerminate : τ → Bool) (state : τ) (part : Part) :
    τ × Pass :=
  match writeFun state part with
  | (state, .error thrown) => (state, .left (.error thrown))
  | (state, .ok (ret, errno)) =>
      match checkError ret errno [eintr, eagain] with
      | .error thrown => (state, .left (.error thrown))
      | .ok partLength =>
          if checkTerminate state then (state, .left (.ok true))
          else (state, .again (part.advance partLength))

/-- At most so many passes; `none` when the loop is not through by then. The result says
whether the thread was told to end. -/
def innerLoop (writeFun : WriteFun τ) (checkTerminate : τ → Bool) :
    Nat → τ → Part → Option (τ × Except Thrown Bool)
  | passes, state, part =>
      if 0 < part.length then
        match passes with
        | 0 => none
        | passes + 1 =>
            match pass writeFun checkTerminate state part with
            | (state, .left result) => some (state, result)
            | (state, .again part) => innerLoop writeFun checkTerminate passes state part
      else some (state, .ok false)

end AAServer

end AACS
