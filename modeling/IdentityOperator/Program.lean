/-!
Programs that ask the outside world.

A program is either finished or has asked a request and waits for the answer. What answers is not
part of it: the same program can be run against a store in memory, against a server, with any
request failing, or step by step beside other programs.
-/

namespace IdentityOperator

/-- A program that asks requests and ends with a result. -/
inductive Program (Request : Type) (Answer : Request → Type) (α : Type) where
  | done (result : α)
  | ask (request : Request) (next : Answer request → Program Request Answer α)

namespace Program

variable {Request : Type} {Answer : Request → Type} {α β : Type}

/-- Go on with the result of a program. -/
def bind : Program Request Answer α → (α → Program Request Answer β) → Program Request Answer β
  | done result, next => next result
  | ask request answered, next => ask request fun answer => (answered answer).bind next

instance : Monad (Program Request Answer) where
  pure := done
  bind := bind

def send (request : Request) : Program Request Answer (Answer request) := ask request done

/-- Run a program against something that answers and changes with each answer. -/
def run {σ : Type} (serve : (request : Request) → σ → Answer request × σ) :
    Program Request Answer α → σ → α × σ
  | done result, state => (result, state)
  | ask request next, state =>
    let (answer, state) := serve request state
    (next answer).run serve state

/-- Run a program up to the first request of some sort, which is still answered. There is no result
if the program was cut off so. -/
def runUntil {σ : Type} (isLast : Request → Bool)
    (serve : (request : Request) → σ → Answer request × σ) :
    Program Request Answer α → σ → Option α × σ
  | done result, state => (some result, state)
  | ask request next, state =>
    let (answer, state) := serve request state
    if isLast request then (none, state) else (next answer).runUntil isLast serve state

/-- Replace each request by a program over other requests. -/
def translate {Request' : Type} {Answer' : Request' → Type}
    (expand : (request : Request) → Program Request' Answer' (Answer request)) :
    Program Request Answer α → Program Request' Answer' α
  | done result => done result
  | ask request next => (expand request).bind fun answer => (next answer).translate expand

end Program

end IdentityOperator
