import TokenBridge.Store.Transaction

/-!
# Operations on a store of octets

The elementary operations, and sequences of them in transactions of any
depth, as data. `Operation.program` says what an operation does and what
it answers.
-/

namespace TokenBridge

/-- **An operation on a store.** -/
inductive Operation where
  /-- Reads the value under a key. -/
  | get (key : Bytes)
  /-- Writes a value under a key. -/
  | set (key value : Bytes)
  /-- Removes the value under a key. -/
  | remove (key : Bytes)
  /-- Reads the entries in a window. -/
  | range (window : Window)
  /-- Operations in a transaction of their own, which is committed or
  dropped at their end. -/
  | transaction (operations : List Operation) (commits : Bool)

/-- **What an operation answers.** -/
inductive Operation.Answer where
  /-- Nothing. -/
  | done
  /-- The value under a key, if there is one. -/
  | value (value : Option Bytes)
  /-- Entries. -/
  | entries (entries : List (Bytes × Bytes))
  /-- The answers of the operations in a transaction. -/
  | transaction (answers : List Operation.Answer)

namespace Operation

mutual

/-- **What an operation does.** -/
def program {ε : Type} : Operation → Program Bytes ε Answer
  | .get key => .get key fun value => .done (.value value)
  | .set key value => .set key value (.done .done)
  | .remove key => .remove key (.done .done)
  | .range window => .range window fun entries => .done (.entries entries)
  | .transaction operations commits =>
    .transaction <$> (programs operations).inTransaction fun _ => commits

/-- What operations do one after another. -/
def programs {ε : Type} : List Operation → Program Bytes ε (List Answer)
  | [] => .done []
  | operation :: rest => do
    let answer ← program operation
    let answers ← programs rest
    return answer :: answers

end

end Operation

end TokenBridge
