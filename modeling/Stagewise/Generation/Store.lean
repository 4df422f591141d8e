import Stagewise.Document.Basic

/-! Stores of accepted documents. -/

namespace Stagewise

inductive StoreError where
  | unavailable (detail : String)
  | rejected (detail : String)
deriving DecidableEq

def StoreError.message : StoreError → String
  | unavailable detail => "Spec store is unavailable: " ++ detail
  | rejected detail => "Spec store rejected the document: " ++ detail

/-- What a store answers to each document it is handed, given the number of those before. -/
structure DocumentStore where
  save : Nat → Document → Except StoreError Unit

namespace DocumentStore

def accepting : DocumentStore where
  save _ _ := .ok ()

def failing (e : StoreError) : DocumentStore where
  save _ _ := .error e

end DocumentStore

end Stagewise
