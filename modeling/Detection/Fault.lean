/-
# Why a detection fails

Each way to fail is a cause of its own; the wording is derived from the cause in one place.
Causes fall into a few kinds, which a caller can tell apart without reading the wording.
-/
import Detection.Settings.Basic

namespace Detection

/-! ## Causes -/

/-- What can be wrong with the geometry of a picture. -/
inductive PictureFault where
  /-- The model's input is larger than any picture may be. -/
  | resizedSize
  /-- The picture is larger than any picture may be. -/
  | pictureSize
  /-- The cropped area reaches farther than any picture may. -/
  | cropSize
  /-- The cropped area ends before it begins. -/
  | cropOrder
  /-- The factor that keeps the aspect ratio is zero. -/
  | zeroScaling
  /-- The picture has no extent to divide by. -/
  | zeroExtent
  /-- The model's input has no extent. -/
  | zeroModel
deriving DecidableEq, Repr

/-- What can be wrong with a tensor or the access to it. -/
inductive TensorFault where
  /-- The buffer holds nothing. -/
  | empty
  /-- The elements are not numbers of 32 bits. -/
  | notFloat
  /-- The elements are not integers. -/
  | notInteger
  /-- The buffer is too short for an index that will be read. -/
  | short (length index : Nat)
  /-- There is no tensor of that index. -/
  | missing (index count : Nat)
  /-- An element outside the buffer was read. -/
  | outside (length index : Nat)
deriving DecidableEq, Repr

/-- What can be wrong with the outputs or settings of a grid detector. -/
inductive YoloFault where
  /-- The settings name a memory layout that does not exist. -/
  | layout (index : Nat)
  /-- More anchors for a cell than a layer can hold. -/
  | anchorsPerCell
  /-- The number of outputs is not the number of layers. -/
  | outputCount
  /-- An output has too few dimensions. -/
  | outputRank
  /-- An output in channel blocks has too few dimensions. -/
  | blockedRank
  /-- The channels of an output are not those of the settings. -/
  | channels
  /-- A layer's anchors lie outside the list of anchors. -/
  | anchorSlice
  /-- An output describes no cell. -/
  | emptyOutput
deriving DecidableEq, Repr

/-- What can be wrong with the outputs of a region detector. -/
inductive RegionFault where
  /-- There are fewer outputs than needed. -/
  | outputCount (count least : Nat)
  /-- A feature pyramid has another number of outputs. -/
  | pyramidOutputCount (count expected : Nat)
  /-- The settings point a role at an output that does not exist. -/
  | role (key : String) (index : Nat)
  /-- The boxes of each class have another shape. -/
  | classBoxShape (shape : List Nat) (classes width : Nat)
  /-- The boxes have another shape. -/
  | boxShape (shape : List Nat) (width : Nat)
  /-- The boxes of a feature pyramid have another shape. -/
  | pyramidBoxShape (shape : List Nat) (width : Nat)
  /-- The number of detections cannot be addressed. -/
  | detectionCount (count : Nat)
deriving DecidableEq, Repr

/-- What can be wrong with the outputs or settings of a text detector. -/
inductive TextFault where
  /-- The number of anchors is not one that exists. -/
  | anchorCount
  /-- The features have no stride. -/
  | zeroStride
  /-- An anchor has too few features. -/
  | featureCount
  /-- There are too few outputs. -/
  | outputCount
  /-- An output has another number of dimensions. -/
  | outputRank
deriving DecidableEq, Repr

/-- Why a detection fails. -/
inductive Fault where
  | picture (fault : PictureFault)
  | tensor (fault : TensorFault)
  | yolo (fault : YoloFault)
  | region (fault : RegionFault)
  | text (fault : TextFault)
  /-- A value of the settings cannot be read. -/
  | settings (fault : SettingsFault)
  /-- The settings lack a key. -/
  | absent (key : String)
  /-- A list of the settings has another length. -/
  | valueCount (key : String) (expected actual : Nat)
  /-- Thresholds are given for no class. -/
  | noClasses
  /-- An object lies outside every picture. -/
  | objectPlace
  /-- No such combination of version, framework and layout is known. -/
  | combination (name : String)
  /-- A number does not fit into a word of the machine. -/
  | overflow
deriving DecidableEq, Repr

/-! ## Kinds and wording -/

/-- The kinds of fault that a caller can tell apart. -/
inductive FaultKind where
  /-- What was given does not fit together. -/
  | parameter
  /-- A buffer is not what it is taken for. -/
  | buffer
  /-- What was asked for is not supported. -/
  | unsupported
  /-- The decoder itself is at fault. -/
  | internal
deriving DecidableEq, Repr

/-- The kind of a fault. -/
def Fault.kind : Fault → FaultKind
  | .tensor .empty => .buffer
  | .tensor .notFloat => .buffer
  | .tensor .notInteger => .buffer
  | .tensor (.outside _ _) => .internal
  | .combination _ => .unsupported
  | .overflow => .internal
  | _ => .parameter

/-- What a message of a kind begins with. -/
def FaultKind.opening : FaultKind → String
  | .parameter => "参数无效: "
  | .buffer => "数据缓冲区无效: "
  | .unsupported => "不支持的组合: "
  | .internal => "内部错误: "

/-- A shape as messages show it. -/
def shapeText (shape : List Nat) : String :=
  "[" ++ String.intercalate ", " (shape.map toString) ++ "]"

/-- The wording of a fault of the picture. -/
def PictureFault.message : PictureFault → String
  | .resizedSize => "模型输入尺寸超出范围"
  | .pictureSize => "原图尺寸超出范围"
  | .cropSize => "裁剪坐标超出范围"
  | .cropOrder => "裁剪区域右下角小于左上角"
  | .zeroScaling => "保持比例缩放系数为 0"
  | .zeroExtent => "图像尺寸为 0"
  | .zeroModel => "模型输入尺寸为 0"

/-- The wording of a fault of a tensor. -/
def TensorFault.message : TensorFault → String
  | .empty => "张量缓冲区为空"
  | .notFloat => "期望 float32 张量"
  | .notInteger => "期望 int64 张量"
  | .short length index =>
    "张量数据长度 " ++ toString length ++ " 不足, 需要访问下标 " ++ toString index
  | .missing index count =>
    "张量下标 " ++ toString index ++ " 超出张量数量 " ++ toString count
  | .outside length index =>
    "张量数据长度 " ++ toString length ++ ", 访问下标 " ++ toString index

/-- The wording of a fault of a grid detector. -/
def YoloFault.message : YoloFault → String
  | .layout index => "不支持的 MODEL_TYPE: " ++ toString index
  | .anchorsPerCell => "ANCHOR_DIM 过大"
  | .outputCount => "输出张量数量与 YOLO_TYPE 不一致"
  | .outputRank => "输出张量维度数不足"
  | .blockedRank => "NCHWC 输出张量维度数错误"
  | .channels => "输出张量通道数不匹配"
  | .anchorSlice => "锚框下标越界"
  | .emptyOutput => "输出张量为空"

/-- The wording of a fault of a region detector. -/
def RegionFault.message : RegionFault → String
  | .outputCount count least =>
    "输出张量数量 " ++ toString count ++ " 小于 " ++ toString least
  | .pyramidOutputCount count expected =>
    "FPN 输出张量数量 " ++ toString count ++ " 不等于 " ++ toString expected
  | .role key index => key ++ " (" ++ toString index ++ ") 超出张量数量"
  | .classBoxShape shape classes width =>
    "框张量形状 " ++ shapeText shape ++ " 应为 [.., .., " ++ toString classes ++ ", " ++
      toString width ++ "]"
  | .boxShape shape width =>
    "框张量形状 " ++ shapeText shape ++ " 应为 [.., .., " ++ toString width ++ "]"
  | .pyramidBoxShape shape width =>
    "FPN 框张量形状 " ++ shapeText shape ++ " 应为 [n, " ++ toString width ++ "]"
  | .detectionCount count => "检测数量 " ++ toString count ++ " 超出范围"

/-- The wording of a fault of a text detector. -/
def TextFault.message : TextFault → String
  | .anchorCount => "ANCHORNUM 无效"
  | .zeroStride => "FEAT_STRIDE 为 0"
  | .featureCount => "FEAT_BOX_LAYER 或 FEAT_CONF_LAYER 过小"
  | .outputCount => "输出张量数量不足"
  | .outputRank => "输出张量维度数错误"

/-- What a fault is, without its kind. -/
def Fault.detail : Fault → String
  | .picture fault => fault.message
  | .tensor fault => fault.message
  | .yolo fault => fault.message
  | .region fault => fault.message
  | .text fault => fault.message
  | .settings fault => fault.message
  | .absent key => "配置中缺少 " ++ key
  | .valueCount key expected actual =>
    key ++ " 需要 " ++ toString expected ++ " 个值, 实际为 " ++ toString actual
  | .noClasses => "CLASS_NUM 必须大于 0"
  | .objectPlace => "检测框坐标超出范围"
  | .combination name => name
  | .overflow => "整数溢出"

/-- The wording of a fault. -/
def Fault.message (fault : Fault) : String :=
  fault.kind.opening ++ fault.detail

end Detection
