/-!
# Predefined names

Names that need no declaration: functions that every catalog holds, constants, and the keywords of
the language.
-/

namespace BrickLint.Catalog

/-- Functions that are part of every catalog. -/
def essentialFunctions : List String :=
  [
    "OnFwd", "OnRev", "Off", "Wait", "CurrentTick", "Sensor", "ColorSensor", "SensorUS",
    "SetSensorColorFull", "SetSensorUltrasonic", "ResetRotationCount", "MotorRotationCount",
    "SetSensorType", "SetSensorMode", "ClearSensor", "ResetSensor", "SetSensor",
    "SetSensorTouch", "SetSensorLight", "SetSensorSound", "SetSensorLowspeed",
    "SetSensorEMeter", "SetSensorTemperature", "SetSensorColorRed", "SetSensorColorGreen",
    "SetSensorColorBlue", "SetSensorColorNone", "ClearScreen", "ClearLine", "PlaySound",
    "PlayTones", "TextOut", "NumOut", "PointOut", "LineOut", "CircleOut", "RectOut", "PolyOut",
    "EllipseOut", "FontTextOut", "FontNumOut", "Sin", "Cos", "Tan", "ASin", "ACos", "ATan",
    "ATan2", "Sinh", "Cosh", "Tanh", "Exp", "Log", "Log10", "Sqrt", "Pow", "Ceil", "Floor",
    "Trunc", "Frac", "Sign", "Abs", "Max", "Min", "Constrain", "Map", "Random", "SRandom"
  ]

/-- Constants that are part of every catalog. -/
def builtinConstants : List String :=
  [
    "TRUE", "FALSE", "NULL", "true", "false", "OUT_A", "OUT_B", "OUT_C", "OUT_AB", "OUT_AC",
    "OUT_BC", "OUT_ABC", "IN_1", "IN_2", "IN_3", "IN_4", "S1", "S2", "S3", "S4", "SENSOR_1",
    "SENSOR_2", "SENSOR_3", "SENSOR_4", "LCD_LINE1", "LCD_LINE2", "LCD_LINE3", "LCD_LINE4",
    "LCD_LINE5", "LCD_LINE6", "LCD_LINE7", "LCD_LINE8", "NO_ERR", "ERR_ARG", "ERR_INVAL",
    "ERR_FILE", "ERR_COMM", "COL_BLACK", "COL_BLUE", "COL_GREEN", "COL_YELLOW", "COL_RED",
    "COL_WHITE", "COL_BROWN", "OUT_MODE_MOTORON", "OUT_MODE_BRAKE", "OUT_MODE_REGULATED",
    "OUT_MODE_COAST", "OUT_REGMODE_IDLE", "OUT_REGMODE_SPEED", "OUT_REGMODE_SYNC",
    "OUT_RUNSTATE_IDLE", "OUT_RUNSTATE_RAMPUP", "OUT_RUNSTATE_RUNNING", "OUT_RUNSTATE_RAMPDOWN",
    "SENSOR_TYPE_TOUCH", "SENSOR_TYPE_LIGHT", "SENSOR_TYPE_SOUND", "SENSOR_TYPE_ULTRASONIC",
    "SENSOR_MODE_RAW", "SENSOR_MODE_BOOL", "SENSOR_MODE_PERCENT", "SOUND_CLICK", "SOUND_BEEP",
    "SOUND_DOUBLE_BEEP", "SOUND_UP", "SOUND_DOWN", "SOUND_LOW_BEEP", "BTNCENTER", "BTNLEFT",
    "BTNRIGHT", "BTNEXIT", "DRAW_OPT_NORMAL", "DRAW_OPT_CLEAR_WHOLE_SCREEN",
    "DRAW_OPT_FILL_SHAPE"
  ]

/-- The words with a meaning of their own, each once. -/
def keywordNames : List String :=
  [
    "if", "else", "while", "for", "do", "switch", "case", "default", "break", "continue",
    "return", "goto", "repeat", "until", "task", "sub", "void", "inline", "safecall", "static",
    "extern", "volatile", "register", "int", "float", "byte", "char", "string", "bool", "mutex",
    "long", "short", "unsigned", "signed", "const", "variant", "struct", "enum", "union",
    "typedef", "sizeof", "true", "false", "TRUE", "FALSE", "NULL", "start", "stop", "priority",
    "asm"
  ]

end BrickLint.Catalog
