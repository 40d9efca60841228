import PipeShell.Notice
import PipeShell.World

/-!
# Hosts

A host starts programs and tells how they end. The shell gives each program its streams and has no
part in them from then on; the host closes them when the program does not start or when it is done
with them.
-/

namespace PipeShell

structure Launch where
  argv : List String
  searchPath : String
  streams : Streams
deriving DecidableEq, Repr

structure Reply (σ α : Type) where
  answer : Except Fault α
  host : σ
  world : World
  notices : List Notice := []

structure Host (σ : Type) where
  spawn : Launch → σ → World → Reply σ Pid
  wait : Pid → σ → World → Reply σ Int
  poll : Pid → σ → World → Reply σ (Option Int)
  write : Option End → Bytes → σ × World → Option SystemError × σ × World

end PipeShell
