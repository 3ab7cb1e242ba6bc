import AACS.Protocol.Fragment
import AACS.Protocol.Handler

/-!
`AAServer::dataPump` on endpoint 2: reads, and `handleMessage` as its `writeFun`.

The message handler and the flag that other threads set to end the pump are
parameters, as they are members of the `ThreadDescriptor`.
-/

namespace AACS

open RecordLayer

variable {ρ τ : Type}

def eintr : Nat := 4
def eagain : Nat := 11

def checkError (ret : Int) (errno : Nat) (ignoredErrors : List Nat) : Except Thrown Int :=
  if 0 < ret then .ok ret
  else if ret = 0 then .ok (-1)
  else if errno ∈ ignoredErrors then .ok 0
  else .error (.aaRuntimeError ("checkError: " ++ toString ret ++ " " ++ toString errno))

/-- What `readWraper` returns: a number of bytes, none of them when a second has
passed, or an error. -/
inductive Reading where
  | data (bytes : Bytes)
  | failed (errno : Nat)
  deriving DecidableEq, Repr

def Reading.bytes : Reading → Bytes
  | .data bytes => bytes
  | .failed _ => []

def Reading.checked : Reading → Except Thrown Int
  | .data bytes => checkError bytes.length eintr [eintr, eagain]
  | .failed errno => checkError (-1) errno [eintr, eagain]

namespace AAServer

def decryptMessage (tls : Opener ρ DecryptFailure UInt8) (ssl : ρ) (encryptedMsg : Bytes) :
    ρ × Except Thrown Bytes :=
  match tls.read ssl encryptedMsg with
  | (ssl, .ok plain) => (ssl, .ok plain)
  | (ssl, .error .bioWrite) => (ssl, .error (.runtimeError "BIO_write failed"))
  | (ssl, .error (.sslRead ret error detail)) =>
      (ssl, .error (.runtimeError ("SSL_read failed: " ++ toString ret ++ " " ++ toString error ++
        " " ++ toString encryptedMsg.length ++ " " ++ toString encryptedMsg.length ++
        if error = sslErrorSsl then " " ++ detail else "")))

/-- A message given to `handleMessageContent` and the bytes taken for its frame. -/
structure Handed where
  msg : Message
  taken : Nat
  deriving DecidableEq, Repr

structure Turn (ρ τ α : Type) where
  handed : List Handed
  ssl : ρ
  state : τ
  result : Except Thrown α

/-- The frame type is not looked at. A view of less than four bytes throws
whatever the bytes behind it are. -/
def handleMessage (tls : Opener ρ DecryptFailure UInt8) (handleMessageContent : Handler τ)
    (ssl : ρ) (state : τ) (buf : Bytes) : Turn ρ τ Nat :=
  match buf with
  | channel :: flags :: high :: low :: rest =>
      let length := BigEndian.decode [high, low]
      if rest.length < length then ⟨[], ssl, state, .error (.runtimeError "nbytes<4+length")⟩
      else
        let msg := rest.take length
        match if isEncrypted flags then decryptMessage tls ssl msg else (ssl, .ok msg) with
        | (ssl, .error thrown) => ⟨[], ssl, state, .error thrown⟩
        | (ssl, .ok content) =>
            let message : Message := { channel, flags, content }
            match handleMessageContent state message with
            | (state, .error thrown) => ⟨[⟨message, length + 4⟩], ssl, state, .error thrown⟩
            | (state, .ok _) => ⟨[⟨message, length + 4⟩], ssl, state, .ok (length + 4)⟩
  | _ => ⟨[], ssl, state, .error (.runtimeError "nbytes<4+length")⟩

theorem handleMessage_result {tls : Opener ρ DecryptFailure UInt8}
    {handleMessageContent : Handler τ} {ssl : ρ} {state : τ} {buf : Bytes} {taken : Nat}
    (returned : (handleMessage tls handleMessageContent ssl state buf).result = .ok taken) :
    0 < taken ∧ taken ≤ buf.length := by
  unfold handleMessage at returned
  split at returned
  next channel flags high low rest =>
    simp only at returned
    split at returned
    next short => cases returned
    next long =>
      split at returned
      next => cases returned
      next =>
        split at returned
        next => cases returned
        next =>
          obtain rfl : BigEndian.decode [high, low] + 4 = taken := Except.ok.inj returned
          simp only [List.length_cons]
          omega
  next => cases returned

/-- The inner loop of the pump, over what a read has put into the buffer; the
result says whether the thread was told to end. `handleMessage` returns more
than zero, which `checkError` passes on. -/
def drain (tls : Opener ρ DecryptFailure UInt8) (handleMessageContent : Handler τ)
    (checkTerminate : τ → Bool) (ssl : ρ) (state : τ) (buf : Bytes) : Turn ρ τ Bool :=
  if buf = [] then ⟨[], ssl, state, .ok false⟩
  else
    let turn := handleMessage tls handleMessageContent ssl state buf
    match _returned : turn.result with
    | .error thrown => ⟨turn.handed, turn.ssl, turn.state, .error thrown⟩
    | .ok partLength =>
        if checkTerminate turn.state then ⟨turn.handed, turn.ssl, turn.state, .ok true⟩
        else
          let rest := drain tls handleMessageContent checkTerminate turn.ssl turn.state
            (buf.drop partLength)
          { rest with handed := turn.handed ++ rest.handed }
termination_by buf.length
decreasing_by
  have bounds := handleMessage_result _returned
  rw [List.length_drop]
  omega

section Drain

variable {tls : Opener ρ DecryptFailure UInt8} {handle : Handler τ} {checkTerminate : τ → Bool}
  {ssl next : ρ} {state after : τ} {buf : Bytes} {handed : List Handed}

theorem drain_error {thrown : Thrown} (nonempty : buf ≠ [])
    (failed : handleMessage tls handle ssl state buf = ⟨handed, next, after, .error thrown⟩) :
    drain tls handle checkTerminate ssl state buf = ⟨handed, next, after, .error thrown⟩ := by
  rw [drain, if_neg nonempty]
  dsimp only
  split <;> simp_all

theorem drain_ok {partLength : Nat} (nonempty : buf ≠ [])
    (returned : handleMessage tls handle ssl state buf = ⟨handed, next, after, .ok partLength⟩) :
    drain tls handle checkTerminate ssl state buf =
      if checkTerminate after then ⟨handed, next, after, .ok true⟩
      else
        let rest := drain tls handle checkTerminate next after (buf.drop partLength)
        { rest with handed := handed ++ rest.handed } := by
  rw [drain, if_neg nonempty]
  dsimp only
  split <;> simp_all

end Drain

/-- The outer loop. An exception ends it, and `endFun` gets it. -/
def dataPump (tls : Opener ρ DecryptFailure UInt8) (handleMessageContent : Handler τ)
    (checkTerminate : τ → Bool) (ssl : ρ) (state : τ) : List Reading → Turn ρ τ Bool
  | [] => ⟨[], ssl, state, .ok false⟩
  | reading :: readings =>
      match reading.checked with
      | .error thrown => ⟨[], ssl, state, .error thrown⟩
      | .ok _ =>
          if checkTerminate state then ⟨[], ssl, state, .ok true⟩
          else
            let turn := drain tls handleMessageContent checkTerminate ssl state reading.bytes
            match turn.result with
            | .error thrown => ⟨turn.handed, turn.ssl, turn.state, .error thrown⟩
            | .ok true => ⟨turn.handed, turn.ssl, turn.state, .ok true⟩
            | .ok false =>
                let rest := dataPump tls handleMessageContent checkTerminate turn.ssl turn.state
                  readings
                { rest with handed := turn.handed ++ rest.handed }

end AAServer

end AACS
