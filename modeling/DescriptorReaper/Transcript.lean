import DescriptorReaper.Kernel

/-!
Calls as text. A stretch of closes over adjacent ascending numbers with one answer is told in one
line, so that a transcript stays short however many numbers a sweep goes through.
-/

namespace DescriptorReaper

namespace Call

def answerWord : Except Errno Unit → String
  | .ok _ => "ok"
  | .error error => error.name

def text : Call → String
  | .offersRange _ => "has_close_range"
  | .offersDir dir _ => "has_fd_dir " ++ dir.path
  | .closeRange low _ => "close_range " ++ toString low
  | .close fd answer => "close " ++ toString fd ++ " " ++ answerWord answer
  | .snapshot dir _ => "read_fd_dir " ++ dir.path
  | .limit _ => "open_max"

end Call

inductive Line where
  | single (text : String)
  | closes (first last : Int) (word : String)

def Line.text : Line → String
  | .single text => text
  | .closes first last word =>
      if first = last then "close " ++ toString first ++ " " ++ word
      else "close " ++ toString first ++ ".." ++ toString last ++ " " ++ word

def Line.append (lines : List Line) (call : Call) : List Line :=
  match call with
  | .close fd answer =>
      let word := Call.answerWord answer
      match lines with
      | .closes first last sameWord :: earlier =>
          if fd = last + 1 ∧ word = sameWord then .closes first fd word :: earlier
          else .closes fd fd word :: lines
      | _ => .closes fd fd word :: lines
  | other => .single other.text :: lines

/-- The calls, line by line. -/
def transcript (calls : List Call) : List String :=
  (calls.foldl Line.append []).reverse.map Line.text

end DescriptorReaper
