import SourceBundle.Compilation
import SourceBundle.FileSystem.Change

/-! # Streams — open files and pipes

    What a process reads from and writes to are streams.  A stream is shared by all
    that hold it: how far it has been read, and where the next write goes, is part
    of the stream.  The file system and all streams together are what the processes
    of a machine share (`World`). -/

namespace SourceBundle.Shell

/-- What a stream leads to. -/
inductive Channel where
  | device (kind : Device)
  /-- What was written and not read: the bytes to be read next, and those behind them, of which
      the last comes first. -/
  | pipe (front backward : Bytes)
  | file (place : Location) (append : Bool)
  | directory
  deriving Repr

/-- A stream. -/
structure Stream where
  channel : Channel
  /-- How far a file was read or written. -/
  offset : Nat
  readable : Bool
  writable : Bool
  deriving Repr

/-- What all processes share. -/
structure World where
  files : FileSystem
  streams : Array Stream
  /-- The number of the last process that was started. -/
  lastProcess : Nat
  /-- Signals on their way: the process and the signal. -/
  signals : List (Nat × Nat)
  /-- How a command is started from the beginning. -/
  launch : Launcher

namespace World

/-- Add a stream; its number comes with it. -/
def add (w : World) (s : Stream) : Nat × World :=
  (w.streams.size, { w with streams := w.streams.push s })

/-- A pipe that holds some bytes. -/
def addPipe (w : World) (content : Bytes) : Nat × World :=
  w.add ⟨.pipe content [], 0, true, true⟩

/-- The content of a file by its place; nothing if it is gone. -/
def contentAt (w : World) (place : Location) : Option (Bytes × Bool) :=
  match w.files.entryOf? place with
  | some (.file content executable) => some (content, executable)
  | _ => none

/-- Bytes put over others from an offset on, a gap filled with zeros. -/
def overwrite (content : Bytes) (offset : Nat) (bytes : Bytes) : Bytes :=
  let front := content.take offset
  front ++ List.replicate (offset - front.length) 0 ++ bytes
    ++ content.drop (offset + bytes.length)

/-- All that a pipe holds, in order. -/
def held (front : Bytes) : (backward : Bytes) → Bytes
  | [] => front
  | backward => front ++ backward.reverse

/-- Write to a stream: how that ends, and the world after it. A file takes bytes up to the limit
    of the process. -/
def write (w : World) (number : Nat) (bytes : Bytes) : Except OsError Unit × World :=
  match w.streams[number]? with
  | none => (.error .permissionDenied, w)
  | some s =>
      if ! s.writable then (.error .permissionDenied, w)
      else match s.channel with
        | .device kind => (kind.write bytes, w)
        | .directory => (.error .isADirectory, w)
        | .pipe front backward =>
            let s := { s with channel := .pipe front (bytes.reverse ++ backward) }
            (.ok (), { w with streams := w.streams.setIfInBounds number s })
        | .file place append =>
            match w.contentAt place with
            | none => (.ok (), w)
            | some (content, executable) =>
                let offset := if append then content.length else s.offset
                let (result, bytes) : Except OsError Unit × Bytes :=
                  match w.files.limit with
                  | none => (.ok (), bytes)
                  | some limit =>
                      if offset + bytes.length ≤ limit.bytes then (.ok (), bytes)
                      else (.error limit.cause, bytes.take (limit.bytes - offset))
                let s := { s with offset := offset + bytes.length }
                (result, { w with
                  files := w.files.insert place (.file (overwrite content offset bytes) executable),
                  streams := w.streams.setIfInBounds number s })

/-- What is left to read of a stream; nothing if it cannot be read. -/
def unread? (w : World) (number : Nat) : Option Bytes := do
  let s ← w.streams[number]?
  if ! s.readable then none
  else match s.channel with
    | .device kind => kind.read.toOption
    | .directory => none
    | .pipe front backward => some (held front backward)
    | .file place _ => some (((w.contentAt place).map (·.1)).getD [] |>.drop s.offset)

/-- Leave out bytes at the front of what is left to read. -/
def skip (w : World) (number count : Nat) : World :=
  match w.streams[number]? with
  | none => w
  | some s =>
      let s := match s.channel with
        | .pipe front backward =>
            { s with channel := .pipe ((held front backward).drop count) [] }
        | _ => { s with offset := s.offset + count }
      { w with streams := w.streams.setIfInBounds number s }

/-- All that a pipe holds. -/
def pipeContent (w : World) (number : Nat) : Bytes :=
  match w.streams[number]? with
  | some ⟨.pipe front backward, _, _, _⟩ => held front backward
  | _ => []

end World

end SourceBundle.Shell
