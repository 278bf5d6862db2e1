import Terrarium.Settings.Document

/-!
The document that every run starts from: a small self-copying program on a world of its own,
with mild noise.
-/

namespace Terrarium.Document

def seedVariable : String := "MYCO_SEED"

def texts (words : List String) : Value := .list (words.map .text)

def ints (numbers : List Int) : Value := .list (numbers.map .int)

def defaultWorld : Value := .record [
  ("width", .int 200),
  ("height", .int 200),
  ("fill", .text "$\x7bopcode:'..'\x7d"),
  ("seed", .text ("$\x7boc.env:" ++ seedVariable ++ ",null\x7d"))]

def defaultRun : Value := .record [
  ("cycle_speed_ms", .int 1),
  ("write_error_chance", .int 1000),
  ("write_error_scope", .text "per_write"),
  ("cosmic_ray_rate", .float (Binary64.ofRatio 1 2)),
  ("cosmic_ray_mode", .text "expected"),
  ("max_population", .int 500),
  ("lifespan", .null),
  ("max_children", .null),
  ("auto_dedup_period", .int 50),
  ("instruction_costs", .bool false),
  ("log_interval", .int 100),
  ("max_cycles", .int 1000)]

def defaultProgram : Value := .record [
  ("origin", ints [100, 100]),
  ("rows", .list [
    texts ["r+", "cm", "#>", "#>", "#>", "#>", "#>", "mc", "m=", "!v"],
    texts ["!>", "#v", "#v", "#v", "#0", "-=", "((", ")(", "?@", "!<"]]),
  ("row_count", .text "$\x7blen:$\x7bseed_program.rows\x7d\x7d"),
  ("spawns", .list [.record [("pos", ints [100, 100]), ("direction", .text ">")]])]

def defaultExport : Value := .record [
  ("png", .null),
  ("gif", .null),
  ("gif_frames", .int 50),
  ("gif_step", .int 4),
  ("pixel_scale", .int 2)]

def defaultLogging : Value := .record [
  ("log_dir", .text "logs"),
  ("level", .text "INFO"),
  ("rotation", .text "50 MB"),
  ("retention", .text "30 days")]

def defaultRoot : Value := .record [
  ("world", defaultWorld),
  ("run", defaultRun),
  ("seed_program", defaultProgram),
  ("export", defaultExport),
  ("logging", defaultLogging)]

def overlay (upper : Value) (environment : List (String × String)) :
    Except DocumentFault Document :=
  merge defaultRoot upper environment

end Terrarium.Document
