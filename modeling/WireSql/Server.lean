import WireSql.Connection

/-!
# `WireSql.Server`: connections one after another

A server numbers its connections from one and counts those it has accepted and those it is serving.
All of them share the settings and the state of the backend.
-/

namespace WireSql

/-- The letters that challenges are made of. None of them is zero, which would end the fields that
a challenge travels in. -/
def challengeAlphabet : List Char :=
  "abcdefghijklmnopqrstuvwxyzABCDEFGHIJKLMNOPQRSTUVWXYZ".toList

/-- The challenge made of the letters with the given numbers. -/
def challengeOfNumbers (numbers : List Nat) : Wire.Challenge :=
  .ofBytes (numbers.map fun n =>
    UInt8.ofNat (challengeAlphabet.getD (n % challengeAlphabet.length) 'a').toNat)

/-- A server between two events. -/
structure Server (σ : Type) where
  config : ServerConfig
  /-- The state of the backend. -/
  state : σ
  /-- The number of the next connection. -/
  nextId : UInt32 := 1
  /-- How many connections are being served. -/
  active : Nat := 0
  /-- How many connections have been accepted. -/
  accepted : Nat := 0

namespace Server

variable {σ : Type}

/-- Accept a connection. -/
def accept (s : Server σ) (challenge : Wire.Challenge) : Connection × Server σ :=
  (.new s.config s.nextId challenge,
    { s with nextId := s.nextId + 1, active := s.active + 1, accepted := s.accepted + 1 })

/-- The server after a connection has ended. -/
def leave (s : Server σ) (state : σ) : Server σ := { s with state, active := s.active - 1 }

/-- Accept a connection and serve it to its end, before any other. -/
def serveNext (backend : Backend σ) (s : Server σ) (challenge : Wire.Challenge)
    (reads : List Bytes) : Connection.Serving σ × Server σ :=
  let (connection, s) := s.accept challenge
  let served := connection.serve backend s.state reads
  (served, s.leave served.state)

end Server

end WireSql
