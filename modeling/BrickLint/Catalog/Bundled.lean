import BrickLint.Catalog

/-!
# The installed file of signatures

The functions of the standard library of the brick, grouped by device. Each entry gives a name and
the text of its parameters. The file that is installed with the program holds one of them on each
row.
-/

namespace BrickLint.Catalog

open Text

/-- Motor control. -/
def motorSignatures : List (String × String) :=
  [
    ("OnFwd", "byte outputs, char pwr"),
    ("OnRev", "byte outputs, char pwr"),
    ("OnFwdEx", "byte outputs, char pwr, const byte reset"),
    ("OnRevEx", "byte outputs, char pwr, const byte reset"),
    ("OnFwdReg", "byte outputs, char pwr, byte regmode"),
    ("OnRevReg", "byte outputs, char pwr, byte regmode"),
    ("OnFwdRegEx", "byte outputs, char pwr, byte regmode, const byte reset"),
    ("OnRevRegEx", "byte outputs, char pwr, byte regmode, const byte reset"),
    ("OnFwdSync", "byte outputs, char pwr, char turnpct"),
    ("OnRevSync", "byte outputs, char pwr, char turnpct"),
    ("OnFwdSyncEx", "byte outputs, char pwr, char turnpct, const byte reset"),
    ("OnRevSyncEx", "byte outputs, char pwr, char turnpct, const byte reset"),
    ("OnFwdRegPID", "byte outputs, char pwr, byte regmode, byte p, byte i, byte d"),
    ("OnRevRegPID", "byte outputs, char pwr, byte regmode, byte p, byte i, byte d"),
    ("Off", "byte outputs"),
    ("OffEx", "byte outputs, const byte reset"),
    ("Coast", "byte outputs"),
    ("CoastEx", "byte outputs, const byte reset"),
    ("Float", "byte outputs"),
    ("RotateMotor", "byte outputs, char pwr, long angle"),
    ("RotateMotorEx", "byte outputs, char pwr, long angle, char turnpct, bool sync, bool stop"),
    ("RotateMotorPID", "byte outputs, char pwr, long angle, byte p, byte i, byte d"),
    ("RotateMotorExPID",
      "byte outputs, char pwr, long angle, char turnpct, bool sync, bool stop, " ++
        "byte p, byte i, byte d"),
    ("ResetTachoCount", "byte outputs"),
    ("ResetBlockTachoCount", "byte outputs"),
    ("ResetRotationCount", "byte outputs"),
    ("ResetAllTachoCounts", "byte outputs"),
    ("MotorTachoCount", "byte output"),
    ("MotorBlockTachoCount", "byte output"),
    ("MotorRotationCount", "byte output"),
    ("MotorPower", "byte output"),
    ("MotorActualSpeed", "byte output"),
    ("MotorMode", "byte output"),
    ("MotorRunState", "byte output"),
    ("MotorTurnRatio", "byte output"),
    ("MotorOverload", "byte output"),
    ("SetOutput", "byte outputs, byte field1, variant val1"),
    ("GetOutput", "byte output, const byte field"),
    ("PosRegEnable", "byte output, byte p, byte i, byte d"),
    ("PosRegSetAngle", "byte output, long angle"),
    ("PosRegAddAngle", "byte output, long angle_add")
  ]

/-- Sensors. -/
def sensorSignatures : List (String × String) :=
  [
    ("SetSensor", "const byte & port, const unsigned int config"),
    ("SetSensorType", "const byte & port, byte type"),
    ("SetSensorMode", "const byte & port, byte mode"),
    ("SetSensorTouch", "const byte & port"),
    ("SetSensorLight", "const byte & port, bool bActive"),
    ("SetSensorSound", "const byte & port, bool bdBScaling"),
    ("SetSensorLowspeed", "const byte & port, bool bIsPowered"),
    ("SetSensorUltrasonic", "const byte & port"),
    ("SetSensorEMeter", "const byte & port"),
    ("SetSensorTemperature", "const byte & port"),
    ("SetSensorColorFull", "const byte & port"),
    ("SetSensorColorRed", "const byte & port"),
    ("SetSensorColorGreen", "const byte & port"),
    ("SetSensorColorBlue", "const byte & port"),
    ("SetSensorColorNone", "const byte & port"),
    ("SetSensorBoolean", "const byte port, const bool value"),
    ("ClearSensor", "const byte & port"),
    ("ResetSensor", "const byte & port"),
    ("Sensor", "const byte & port"),
    ("SensorUS", "const byte port"),
    ("SensorRaw", "const byte & port"),
    ("SensorNormalized", "const byte & port"),
    ("SensorScaled", "const byte & port"),
    ("SensorValue", "const byte & port"),
    ("SensorValueRaw", "const byte & port"),
    ("SensorBoolean", "const byte port"),
    ("SensorType", "const byte & port"),
    ("SensorMode", "const byte & port"),
    ("ColorSensor", "const byte & port"),
    ("ColorSensorRaw", "const byte & port"),
    ("ReadSensorColorRaw", "const byte port, unsigned int & rawVals[]"),
    ("ReadSensorColorEx",
      "const byte port, int & colorval, unsigned int & raw[], unsigned int & norm[], " ++
        "int & scaled[]"),
    ("ReadSensorUSEx", "const byte port, byte & values[]"),
    ("ReadSensorHTCompass", "const byte port"),
    ("ReadSensorHTColorNum", "const byte port"),
    ("ReadSensorHTGyro", "const byte port, int offset"),
    ("SensorHTGyro", "const byte & port, int offset"),
    ("SensorHTCompass", "const byte & port"),
    ("SetHTColor2Mode", "const byte & port, byte mode"),
    ("GetInput", "const byte & port, const byte field"),
    ("SetInput", "const byte & port, const int field, variant value")
  ]

/-- Display. -/
def displaySignatures : List (String × String) :=
  [
    ("ClearScreen", ""),
    ("ClearLine", "byte line"),
    ("ResetScreen", ""),
    ("TextOut", "int x, int y, string str, unsigned long options"),
    ("NumOut", "int x, int y, variant value, unsigned long options"),
    ("PointOut", "int x, int y, unsigned long options"),
    ("LineOut", "int x1, int y1, int x2, int y2, unsigned long options"),
    ("CircleOut", "int x, int y, byte radius, unsigned long options"),
    ("RectOut", "int x, int y, int width, int height, unsigned long options"),
    ("PolyOut", "LocationType points[], unsigned long options"),
    ("EllipseOut", "int x, int y, byte radiusX, byte radiusY, unsigned long options"),
    ("GraphicOut", "int x, int y, string filename, unsigned long options"),
    ("GraphicOutEx", "int x, int y, string filename, byte vars[], unsigned long options"),
    ("FontTextOut", "int x, int y, string filename, string str, unsigned long options"),
    ("FontNumOut", "int x, int y, string filename, variant value, unsigned long options"),
    ("GetDisplayNormal", "const byte x, const byte line, unsigned int cnt, byte & data[]"),
    ("SetDisplayNormal", "const byte x, const byte line, unsigned int cnt, byte data[]"),
    ("SetDisplayFont", "unsigned long fontaddr")
  ]

/-- Sound. -/
def soundSignatures : List (String × String) :=
  [
    ("PlaySound", "const int & aCode"),
    ("PlayTone", "unsigned int frequency, unsigned int duration"),
    ("PlayToneEx", "unsigned int frequency, unsigned int duration, byte volume, bool loop"),
    ("PlayTones", "Tone tones[]"),
    ("PlayFile", "string filename"),
    ("PlayFileEx", "string filename, byte volume, bool loop"),
    ("StopSound", ""),
    ("SoundFlags", ""),
    ("SoundState", ""),
    ("SoundVolume", "")
  ]

/-- Buttons. -/
def buttonSignatures : List (String × String) :=
  [
    ("ButtonPressed", "const byte btn, bool resetCount"),
    ("ButtonCount", "const byte btn, bool resetCount"),
    ("ButtonState", "const byte btn"),
    ("ReadButtonEx", "const byte btn, bool reset, bool & pressed, unsigned int & count")
  ]

/-- Timing and tasks. -/
def timingSignatures : List (String × String) :=
  [
    ("Wait", "unsigned long ms"),
    ("CurrentTick", ""),
    ("FirstTick", ""),
    ("ResetSleepTimer", ""),
    ("SetSleepTimeout", "const byte n"),
    ("SleepTimeout", ""),
    ("Acquire", "mutex m"),
    ("Release", "mutex m"),
    ("Precedes", "task t1, task t2"),
    ("Follows", "task t1, task t2"),
    ("ExitTo", "task newTask"),
    ("StartTask", "task t"),
    ("StopTask", "task t"),
    ("StopAllTasks", ""),
    ("Stop", "bool bvalue"),
    ("Yield", "")
  ]

/-- Mathematics. -/
def mathSignatures : List (String × String) :=
  [
    ("Random", "unsigned int n"),
    ("SRandom", "unsigned long seed"),
    ("Abs", "variant num"),
    ("Sign", "variant num"),
    ("Sqrt", "float x"),
    ("Sin", "float x"),
    ("Cos", "float x"),
    ("Tan", "float x"),
    ("ASin", "float x"),
    ("ACos", "float x"),
    ("ATan", "float x"),
    ("ATan2", "float y, float x"),
    ("Sinh", "float x"),
    ("Cosh", "float x"),
    ("Tanh", "float x"),
    ("SinD", "float x"),
    ("CosD", "float x"),
    ("TanD", "float x"),
    ("Exp", "float x"),
    ("Log", "float x"),
    ("Log10", "float x"),
    ("Pow", "float base, float exponent"),
    ("Ceil", "float x"),
    ("Floor", "float x"),
    ("Trunc", "float x"),
    ("Frac", "float x"),
    ("MulDiv32", "long a, long b, long c"),
    ("Max", "variant a, variant b"),
    ("Min", "variant a, variant b"),
    ("Constrain", "variant x, variant lo, variant hi"),
    ("Map", "variant x, variant inMin, variant inMax, variant outMin, variant outMax"),
    ("isNAN", "float value")
  ]

/-- Strings. -/
def stringSignatures : List (String × String) :=
  [
    ("NumToStr", "variant num"),
    ("StrToNum", "string str"),
    ("FormatNum", "string fmtstr, variant num"),
    ("StrLen", "string str"),
    ("StrCat", "string str1, string str2"),
    ("SubStr", "string str, unsigned int idx, unsigned int len"),
    ("StrIndex", "string str, unsigned int idx"),
    ("StrReplace", "string str, unsigned int idx, string strnew"),
    ("StrToByteArray", "string str, byte & data[]"),
    ("ByteArrayToStr", "byte data[]"),
    ("Flatten", "variant num"),
    ("FlattenVar", "variant x"),
    ("UnflattenVar", "string str, variant & x"),
    ("LeftStr", "string str, unsigned int size"),
    ("RightStr", "string str, unsigned int size"),
    ("MidStr", "string str, unsigned int idx, unsigned int len")
  ]

/-- Arrays. -/
def arraySignatures : List (String × String) :=
  [
    ("ArrayLen", "variant data[]"),
    ("ArrayInit", "variant & aout[], variant value, unsigned int count"),
    ("ArraySubset", "variant & aout[], variant asrc[], unsigned int idx, unsigned int len"),
    ("ArrayBuild", "variant & aout[], variant src1, variant src2"),
    ("ArraySum", "variant src[], unsigned int idx, unsigned int len"),
    ("ArrayMean", "variant src[], unsigned int idx, unsigned int len"),
    ("ArraySumSqr", "variant src[], unsigned int idx, unsigned int len"),
    ("ArrayStd", "variant src[], unsigned int idx, unsigned int len"),
    ("ArrayMin", "variant src[], unsigned int idx, unsigned int len"),
    ("ArrayMax", "variant src[], unsigned int idx, unsigned int len"),
    ("ArraySort", "variant & dest[], variant src[], unsigned int idx, unsigned int len"),
    ("ArrayOp",
      "const byte op, variant & dest, variant src[], unsigned int idx, unsigned int len")
  ]

/-- Files. -/
def fileSignatures : List (String × String) :=
  [
    ("CreateFile", "string fname, unsigned int fsize, byte & handle"),
    ("OpenFileRead", "string fname, unsigned int & fsize, byte & handle"),
    ("OpenFileAppend", "string fname, unsigned int & fsize, byte & handle"),
    ("OpenFileWrite", "string fname, unsigned int & fsize, byte & handle"),
    ("CloseFile", "byte handle"),
    ("DeleteFile", "string fname"),
    ("RenameFile", "string oldname, string newname"),
    ("ResizeFile", "string fname, const unsigned int newsize"),
    ("Read", "byte handle, variant & value"),
    ("ReadLn", "byte handle, variant & value"),
    ("ReadBytes", "byte handle, unsigned int & length, byte & buf[]"),
    ("ReadLnString", "byte handle, string & output"),
    ("Write", "byte handle, const variant & value"),
    ("WriteLn", "byte handle, const variant & value"),
    ("WriteString", "byte handle, const string & str, unsigned int & cnt"),
    ("WriteLnString", "byte handle, const string & str, unsigned int & cnt"),
    ("WriteBytes", "byte handle, const byte & buf[], unsigned int & cnt"),
    ("WriteBytesEx", "byte handle, unsigned int & len, const byte & buf[]"),
    ("FreeMemory", "")
  ]

/-- Communication. -/
def communicationSignatures : List (String × String) :=
  [
    ("SendMessage", "byte queue, string msg"),
    ("ReceiveMessage", "byte queue, bool clear, string & msg"),
    ("SendRemoteBool", "byte conn, byte queue, bool bval"),
    ("SendRemoteNumber", "byte conn, byte queue, long val"),
    ("SendRemoteString", "byte conn, byte queue, string str"),
    ("SendResponseBool", "byte queue, bool bval"),
    ("SendResponseNumber", "byte queue, long val"),
    ("SendResponseString", "byte queue, string str"),
    ("ReceiveRemoteBool", "byte queue, bool remove, bool & bval"),
    ("ReceiveRemoteNumber", "byte queue, bool remove, long & val"),
    ("ReceiveRemoteString", "byte queue, bool remove, string & str"),
    ("BluetoothStatus", "byte conn"),
    ("BluetoothWrite", "byte conn, byte buffer[]"),
    ("RemoteConnectionIdle", "byte conn"),
    ("I2CWrite", "byte port, byte retlen, byte buffer[]"),
    ("I2CRead", "byte port, byte & buflen, byte & buffer[]"),
    ("I2CStatus", "byte port, byte & bytesready"),
    ("I2CBytes", "byte port, byte inbuf[], byte & count, byte & outbuf[]"),
    ("I2CBytesReady", "byte port"),
    ("I2CCheckStatus", "byte port"),
    ("LowspeedWrite", "byte port, byte retlen, byte buffer[]"),
    ("LowspeedRead", "byte port, byte buflen, byte & buffer[]"),
    ("LowspeedStatus", "byte port, byte & bytesready"),
    ("LowspeedCheckStatus", "byte port"),
    ("LowspeedBytesReady", "byte port")
  ]

/-- The system. -/
def systemSignatures : List (String × String) :=
  [
    ("BatteryLevel", ""),
    ("BatteryState", ""),
    ("BrickDataName", ""),
    ("FirmwareVersion", ""),
    ("SysCall", "byte funcID, variant & args")
  ]

/-- All installed signatures, in the order in which they are suggested. -/
def bundledSignatures : List (String × String) :=
  motorSignatures ++ sensorSignatures ++ displaySignatures ++ soundSignatures ++
    buttonSignatures ++ timingSignatures ++ mathSignatures ++ stringSignatures ++
    arraySignatures ++ fileSignatures ++ communicationSignatures ++ systemSignatures

/-- The text of the installed file. -/
def bundledText : List Char :=
  ['\n'].intercalate (bundledSignatures.map fun (name, parameters) =>
    name.toList ++ '(' :: (parameters.toList ++ [')']))

/-- The installed file, with the time of its last modification. -/
def bundledEntry (modified : Int) : FileEntry :=
  ⟨["nxcheck", "data", "nxc_api.txt"], .file (encodeUtf8 bundledText), modified⟩

end BrickLint.Catalog
