/-!
The C++ exceptions that the two programs throw.

What is kept of an exception is what the code can see of it: which class it is,
hence which `catch` clause takes it, and its text.
-/

namespace AACS

inductive Thrown where
  | runtimeError (what : String)
  | clientDisconnectedError
  | aaRuntimeError (what : String)
  | lengthError (what : String)
  deriving DecidableEq, Repr

/-- The classes that `catch (runtime_error &)` takes; a `length_error` is a
`logic_error`. -/
def Thrown.isRuntimeError : Thrown → Bool
  | .runtimeError _ | .clientDisconnectedError | .aaRuntimeError _ => true
  | .lengthError _ => false

def Thrown.what : Thrown → String
  | .runtimeError what | .aaRuntimeError what | .lengthError what => what
  | .clientDisconnectedError => "client disconnected error"

/-- What ends a function before its time: an exception, or behaviour that C++ does
not define, after which nothing is promised. -/
inductive Fault where
  | thrown (exception : Thrown)
  | undefinedBehaviour
  deriving DecidableEq, Repr

/-- `catch (client_disconnected_error &)` -/
def Fault.isClientDisconnected : Fault → Bool
  | .thrown .clientDisconnectedError => true
  | _ => false

/-- `catch (exception &)` -/
def Fault.isException : Fault → Bool
  | .thrown _ => true
  | .undefinedBehaviour => false

/-- Which call of `decryptMessage` failed, with what OpenSSL reports. -/
inductive DecryptFailure where
  | bioWrite
  | sslRead (ret : Int) (error : Nat) (detail : String)
  deriving DecidableEq, Repr

/-- `SSL_ERROR_SSL` -/
def sslErrorSsl : Nat := 1

end AACS
