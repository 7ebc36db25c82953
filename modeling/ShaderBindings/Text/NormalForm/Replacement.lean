/-!
# Replacements in compatibility normal form

Characters of identifiers that are variants of others (Unicode 14.0).
-/

namespace ShaderBindings.Text

/-- Characters that normal form replaces, as ranges of code points with texts:
the words of a text are in the places of the characters of the range. -/
def replacements : List (Nat × Nat × String) :=
  [(0xaa, 0xaa, "a"), (0xb5, 0xb5, "μ"), (0xba, 0xba, "o"),
   (0x132, 0x133, "IJ ij"), (0x13f, 0x140, "L\u00b7 l\u00b7"),
   (0x149, 0x149, "ʼn"), (0x17f, 0x17f, "s"),
   (0x1c4, 0x1cc, "DŽ Dž dž LJ Lj lj NJ Nj nj"), (0x1f1, 0x1f3, "DZ Dz dz"),
   (0x2b0, 0x2b8, "h ɦ j r ɹ ɻ ʁ w y"), (0x2e0, 0x2e4, "ɣ l s x ʕ"),
   (0x340, 0x341, "\u0300 \u0301"), (0x343, 0x344, "\u0313 \u0308\u0301"),
   (0x374, 0x374, "\u02b9"), (0x387, 0x387, "\u00b7"),
   (0x3d0, 0x3d6, "β θ Υ Ύ Ϋ φ π"), (0x3f0, 0x3f5, "κ ρ ς ϳ Θ ε"),
   (0x3f9, 0x3f9, "Σ"), (0x587, 0x587, "եւ"),
   (0x675, 0x678, "\u0627\u0674 \u0648\u0674 \u06c7\u0674 \u064a\u0674"),
   (0x958, 0x95e, "क\u093c ख\u093c ग\u093c ज\u093c ड\u093c ढ\u093c फ\u093c"),
   (0x95f, 0x95f, "य\u093c"), (0x9dc, 0x9dd, "ড\u09bc ঢ\u09bc"),
   (0x9df, 0x9df, "য\u09bc"), (0xa33, 0xa33, "ਲ\u0a3c"),
   (0xa36, 0xa36, "ਸ\u0a3c"), (0xa59, 0xa5b, "ਖ\u0a3c ਗ\u0a3c ਜ\u0a3c"),
   (0xa5e, 0xa5e, "ਫ\u0a3c"), (0xb5c, 0xb5d, "ଡ\u0b3c ଢ\u0b3c"),
   (0xe33, 0xe33, "\u0e4dา"), (0xeb3, 0xeb3, "\u0ecdາ"),
   (0xedc, 0xedd, "ຫນ ຫມ"), (0xf43, 0xf43, "ག\u0fb7"),
   (0xf4d, 0xf4d, "ཌ\u0fb7"), (0xf52, 0xf52, "ད\u0fb7"),
   (0xf57, 0xf57, "བ\u0fb7"), (0xf5c, 0xf5c, "ཛ\u0fb7"),
   (0xf69, 0xf69, "ཀ\u0fb5"), (0xf73, 0xf73, "\u0f71\u0f72"),
   (0xf75, 0xf78, "\u0f71\u0f74 \u0fb2\u0f80 \u0fb2\u0f71\u0f80 \u0fb3\u0f80"),
   (0xf79, 0xf79, "\u0fb3\u0f71\u0f80"), (0xf81, 0xf81, "\u0f71\u0f80"),
   (0xf93, 0xf93, "\u0f92\u0fb7"), (0xf9d, 0xf9d, "\u0f9c\u0fb7"),
   (0xfa2, 0xfa2, "\u0fa1\u0fb7"), (0xfa7, 0xfa7, "\u0fa6\u0fb7"),
   (0xfac, 0xfac, "\u0fab\u0fb7"), (0xfb9, 0xfb9, "\u0f90\u0fb5"),
   (0x10fc, 0x10fc, "ნ"),
   (0x1d2c, 0x1d47, "A Æ B ᴯ D E Ǝ G H I J K L M N ᴻ O Ȣ P R T U W a ɐ ɑ ᴂ b"),
   (0x1d48, 0x1d63, "d e ə ɛ ɜ g ᵎ k m ŋ o ɔ ᴖ ᴗ p t u ᴝ ɯ v ᴥ β γ δ φ χ i r"),
   (0x1d64, 0x1d6a, "u v β γ ρ φ χ"), (0x1d78, 0x1d78, "н"),
   (0x1d9b, 0x1db6, "ɒ c ɕ ð ɜ f ɟ ɡ ɥ ɨ ɩ ɪ ᵻ ʝ ɭ ᶅ ʟ ɱ ɰ ɲ ɳ ɴ ɵ ɸ ʂ ʃ ƫ ʉ"),
   (0x1db7, 0x1dbf, "ʊ ᴜ ʋ ʌ z ʐ ʑ ʒ θ"), (0x1e9a, 0x1e9b, "aʾ ṡ"),
   (0x1f71, 0x1f7d, "ά ὲ έ ὴ ή ὶ ί ὸ ό ὺ ύ ὼ ώ"), (0x1fbb, 0x1fbb, "Ά"),
   (0x1fbe, 0x1fbe, "ι"), (0x1fc9, 0x1fcb, "Έ Ὴ Ή"), (0x1fd3, 0x1fd3, "ΐ"),
   (0x1fdb, 0x1fdb, "Ί"), (0x1fe3, 0x1fe3, "ΰ"), (0x1feb, 0x1feb, "Ύ"),
   (0x1ff9, 0x1ffb, "Ό Ὼ Ώ"), (0x2071, 0x2071, "i"), (0x207f, 0x207f, "n"),
   (0x2090, 0x209c, "a e o x ə h k l m n p s t"), (0x2102, 0x2102, "C"),
   (0x2107, 0x2107, "Ɛ"), (0x210a, 0x2113, "g H H H h ħ I I L l"),
   (0x2115, 0x2115, "N"), (0x2119, 0x211d, "P Q R R R"), (0x2124, 0x2124, "Z"),
   (0x2126, 0x2126, "Ω"), (0x2128, 0x2128, "Z"), (0x212a, 0x212d, "K Å B C"),
   (0x212f, 0x2139, "e E F Ⅎ M o \u05d0 \u05d1 \u05d2 \u05d3 i"),
   (0x213c, 0x213f, "π γ Γ Π"), (0x2145, 0x2149, "D d e i j"),
   (0x2160, 0x2172, "I II III IV V VI VII VIII IX X XI XII L C D M i ii iii"),
   (0x2173, 0x217f, "iv v vi vii viii ix x xi xii l c d m"),
   (0x2c7c, 0x2c7d, "j V"), (0x2d6f, 0x2d6f, "ⵡ"), (0x3038, 0x303a, "十 卄 卅"),
   (0x309f, 0x309f, "より"), (0x30ff, 0x30ff, "コト"),
   (0x3131, 0x3138, "\u1100 \u1101 \u11aa \u1102 \u11ac \u11ad \u1103 \u1104"),
   (0x3139, 0x3140, "\u1105 \u11b0 \u11b1 \u11b2 \u11b3 \u11b4 \u11b5 \u111a"),
   (0x3141, 0x3148, "\u1106 \u1107 \u1108 \u1121 \u1109 \u110a \u110b \u110c"),
   (0x3149, 0x3150, "\u110d \u110e \u110f \u1110 \u1111 \u1112 \u1161 \u1162"),
   (0x3151, 0x3158, "\u1163 \u1164 \u1165 \u1166 \u1167 \u1168 \u1169 \u116a"),
   (0x3159, 0x3160, "\u116b \u116c \u116d \u116e \u116f \u1170 \u1171 \u1172"),
   (0x3161, 0x3168, "\u1173 \u1174 \u1175 \u1160 \u1114 \u1115 \u11c7 \u11c8"),
   (0x3169, 0x3170, "\u11cc \u11ce \u11d3 \u11d7 \u11d9 \u111c \u11dd \u11df"),
   (0x3171, 0x3178, "\u111d \u111e \u1120 \u1122 \u1123 \u1127 \u1129 \u112b"),
   (0x3179, 0x3180, "\u112c \u112d \u112e \u112f \u1132 \u1136 \u1140 \u1147"),
   (0x3181, 0x3188, "\u114c \u11f1 \u11f2 \u1157 \u1158 \u1159 \u1184 \u1185"),
   (0x3189, 0x318e, "\u1188 \u1191 \u1192 \u1194 \u119e \u11a1"),
   (0xa69c, 0xa69d, "ъ ь"), (0xa770, 0xa770, "ꝯ"),
   (0xa7f2, 0xa7f9, "C F Q Ꟶ ꟶ ꟷ Ħ œ"), (0xab5c, 0xab5f, "ꜧ ꬷ ɫ ꭒ"),
   (0xab69, 0xab69, "ʍ"),
   (0xf900, 0xf91b, "豈 更 車 賈 滑 串 句 龜 龜 契 金 喇 奈 懶 癩 羅 蘿 螺 裸 邏 樂 洛 烙 珞 落 酪 駱 亂"),
   (0xf91c, 0xf937, "卵 欄 爛 蘭 鸞 嵐 濫 藍 襤 拉 臘 蠟 廊 朗 浪 狼 郎 來 冷 勞 擄 櫓 爐 盧 老 蘆 虜 路"),
   (0xf938, 0xf953, "露 魯 鷺 碌 祿 綠 菉 錄 鹿 論 壟 弄 籠 聾 牢 磊 賂 雷 壘 屢 樓 淚 漏 累 縷 陋 勒 肋"),
   (0xf954, 0xf96f, "凜 凌 稜 綾 菱 陵 讀 拏 樂 諾 丹 寧 怒 率 異 北 磻 便 復 不 泌 數 索 參 塞 省 葉 說"),
   (0xf970, 0xf98b, "殺 辰 沈 拾 若 掠 略 亮 兩 凉 梁 糧 良 諒 量 勵 呂 女 廬 旅 濾 礪 閭 驪 麗 黎 力 曆"),
   (0xf98c, 0xf9a7, "歷 轢 年 憐 戀 撚 漣 煉 璉 秊 練 聯 輦 蓮 連 鍊 列 劣 咽 烈 裂 說 廉 念 捻 殮 簾 獵"),
   (0xf9a8, 0xf9c3, "令 囹 寧 嶺 怜 玲 瑩 羚 聆 鈴 零 靈 領 例 禮 醴 隸 惡 了 僚 寮 尿 料 樂 燎 療 蓼 遼"),
   (0xf9c4, 0xf9df, "龍 暈 阮 劉 杻 柳 流 溜 琉 留 硫 紐 類 六 戮 陸 倫 崙 淪 輪 律 慄 栗 率 隆 利 吏 履"),
   (0xf9e0, 0xf9fb, "易 李 梨 泥 理 痢 罹 裏 裡 里 離 匿 溺 吝 燐 璘 藺 隣 鱗 麟 林 淋 臨 立 笠 粒 狀 炙"),
   (0xf9fc, 0xfa17, "識 什 茶 刺 切 度 拓 糖 宅 洞 暴 輻 行 降 見 廓 兀 嗀 﨎 﨏 塚 﨑 晴 﨓 﨔 凞 猪 益"),
   (0xfa18, 0xfa33, "礼 神 祥 福 靖 精 羽 﨟 蘒 﨡 諸 﨣 﨤 逸 都 﨧 﨨 﨩 飯 飼 館 鶴 郞 隷 侮 僧 免 勉"),
   (0xfa34, 0xfa4f, "勤 卑 喝 嘆 器 塀 墨 層 屮 悔 慨 憎 懲 敏 既 暑 梅 海 渚 漢 煮 爫 琢 碑 社 祉 祈 祐"),
   (0xfa50, 0xfa6b, "祖 祝 禍 禎 穀 突 節 練 縉 繁 署 者 臭 艹 艹 著 褐 視 謁 謹 賓 贈 辶 逸 難 響 頻 恵"),
   (0xfa6c, 0xfa6d, "𤋮 舘"),
   (0xfa70, 0xfa8b, "並 况 全 侀 充 冀 勇 勺 喝 啕 喙 嗢 塚 墳 奄 奔 婢 嬨 廒 廙 彩 徭 惘 慎 愈 憎 慠 懲"),
   (0xfa8c, 0xfaa7, "戴 揄 搜 摒 敖 晴 朗 望 杖 歹 殺 流 滛 滋 漢 瀞 煮 瞧 爵 犯 猪 瑱 甆 画 瘝 瘟 益 盛"),
   (0xfaa8, 0xfac3, "直 睊 着 磌 窱 節 类 絛 練 缾 者 荒 華 蝹 襁 覆 視 調 諸 請 謁 諾 諭 謹 變 贈 輸 遲"),
   (0xfac4, 0xfad9, "醙 鉶 陼 難 靖 韛 響 頋 頻 鬒 龜 𢡊 𢡄 𣏕 㮝 䀘 䀹 𥉉 𥳐 𧻓 齃 龎"),
   (0xfb00, 0xfb06, "ff fi fl ffi ffl st st"),
   (0xfb13, 0xfb17, "մն մե մի վն մխ"), (0xfb1d, 0xfb1d, "\u05d9\u05b4"),
   (0xfb1f, 0xfb25, "\u05f2\u05b7 \u05e2 \u05d0 \u05d3 \u05d4 \u05db \u05dc"),
   (0xfb26, 0xfb28, "\u05dd \u05e8 \u05ea"),
   (0xfb2a, 0xfb2c, "\u05e9\u05c1 \u05e9\u05c2 \u05e9\u05bc\u05c1"),
   (0xfb2d, 0xfb2f, "\u05e9\u05bc\u05c2 \u05d0\u05b7 \u05d0\u05b8"),
   (0xfb30, 0xfb33, "\u05d0\u05bc \u05d1\u05bc \u05d2\u05bc \u05d3\u05bc"),
   (0xfb34, 0xfb36, "\u05d4\u05bc \u05d5\u05bc \u05d6\u05bc"),
   (0xfb38, 0xfb3b, "\u05d8\u05bc \u05d9\u05bc \u05da\u05bc \u05db\u05bc"),
   (0xfb3c, 0xfb3c, "\u05dc\u05bc"), (0xfb3e, 0xfb3e, "\u05de\u05bc"),
   (0xfb40, 0xfb41, "\u05e0\u05bc \u05e1\u05bc"),
   (0xfb43, 0xfb44, "\u05e3\u05bc \u05e4\u05bc"),
   (0xfb46, 0xfb49, "\u05e6\u05bc \u05e7\u05bc \u05e8\u05bc \u05e9\u05bc"),
   (0xfb4a, 0xfb4d, "\u05ea\u05bc \u05d5\u05b9 \u05d1\u05bf \u05db\u05bf"),
   (0xfb4e, 0xfb53, "\u05e4\u05bf \u05d0\u05dc \u0671 \u0671 \u067b \u067b"),
   (0xfb54, 0xfb5b, "\u067b \u067b \u067e \u067e \u067e \u067e \u0680 \u0680"),
   (0xfb5c, 0xfb63, "\u0680 \u0680 \u067a \u067a \u067a \u067a \u067f \u067f"),
   (0xfb64, 0xfb6b, "\u067f \u067f \u0679 \u0679 \u0679 \u0679 \u06a4 \u06a4"),
   (0xfb6c, 0xfb73, "\u06a4 \u06a4 \u06a6 \u06a6 \u06a6 \u06a6 \u0684 \u0684"),
   (0xfb74, 0xfb7b, "\u0684 \u0684 \u0683 \u0683 \u0683 \u0683 \u0686 \u0686"),
   (0xfb7c, 0xfb83, "\u0686 \u0686 \u0687 \u0687 \u0687 \u0687 \u068d \u068d"),
   (0xfb84, 0xfb8b, "\u068c \u068c \u068e \u068e \u0688 \u0688 \u0698 \u0698"),
   (0xfb8c, 0xfb93, "\u0691 \u0691 \u06a9 \u06a9 \u06a9 \u06a9 \u06af \u06af"),
   (0xfb94, 0xfb9b, "\u06af \u06af \u06b3 \u06b3 \u06b3 \u06b3 \u06b1 \u06b1"),
   (0xfb9c, 0xfba3, "\u06b1 \u06b1 \u06ba \u06ba \u06bb \u06bb \u06bb \u06bb"),
   (0xfba4, 0xfbab, "\u06c0 \u06c0 \u06c1 \u06c1 \u06c1 \u06c1 \u06be \u06be"),
   (0xfbac, 0xfbb1, "\u06be \u06be \u06d2 \u06d2 \u06d3 \u06d3"),
   (0xfbd3, 0xfbda, "\u06ad \u06ad \u06ad \u06ad \u06c7 \u06c7 \u06c6 \u06c6"),
   (0xfbdb, 0xfbe1, "\u06c8 \u06c8 \u06c7\u0674 \u06cb \u06cb \u06c5 \u06c5"),
   (0xfbe2, 0xfbe9, "\u06c9 \u06c9 \u06d0 \u06d0 \u06d0 \u06d0 \u0649 \u0649"),
   (0xfbea, 0xfbed, "\u0626\u0627 \u0626\u0627 \u0626\u06d5 \u0626\u06d5"),
   (0xfbee, 0xfbf1, "\u0626\u0648 \u0626\u0648 \u0626\u06c7 \u0626\u06c7"),
   (0xfbf2, 0xfbf5, "\u0626\u06c6 \u0626\u06c6 \u0626\u06c8 \u0626\u06c8"),
   (0xfbf6, 0xfbf9, "\u0626\u06d0 \u0626\u06d0 \u0626\u06d0 \u0626\u0649"),
   (0xfbfa, 0xfbff, "\u0626\u0649 \u0626\u0649 \u06cc \u06cc \u06cc \u06cc"),
   (0xfc00, 0xfc03, "\u0626\u062c \u0626\u062d \u0626\u0645 \u0626\u0649"),
   (0xfc04, 0xfc07, "\u0626\u064a \u0628\u062c \u0628\u062d \u0628\u062e"),
   (0xfc08, 0xfc0b, "\u0628\u0645 \u0628\u0649 \u0628\u064a \u062a\u062c"),
   (0xfc0c, 0xfc0f, "\u062a\u062d \u062a\u062e \u062a\u0645 \u062a\u0649"),
   (0xfc10, 0xfc13, "\u062a\u064a \u062b\u062c \u062b\u0645 \u062b\u0649"),
   (0xfc14, 0xfc17, "\u062b\u064a \u062c\u062d \u062c\u0645 \u062d\u062c"),
   (0xfc18, 0xfc1b, "\u062d\u0645 \u062e\u062c \u062e\u062d \u062e\u0645"),
   (0xfc1c, 0xfc1f, "\u0633\u062c \u0633\u062d \u0633\u062e \u0633\u0645"),
   (0xfc20, 0xfc23, "\u0635\u062d \u0635\u0645 \u0636\u062c \u0636\u062d"),
   (0xfc24, 0xfc27, "\u0636\u062e \u0636\u0645 \u0637\u062d \u0637\u0645"),
   (0xfc28, 0xfc2b, "\u0638\u0645 \u0639\u062c \u0639\u0645 \u063a\u062c"),
   (0xfc2c, 0xfc2f, "\u063a\u0645 \u0641\u062c \u0641\u062d \u0641\u062e"),
   (0xfc30, 0xfc33, "\u0641\u0645 \u0641\u0649 \u0641\u064a \u0642\u062d"),
   (0xfc34, 0xfc37, "\u0642\u0645 \u0642\u0649 \u0642\u064a \u0643\u0627"),
   (0xfc38, 0xfc3b, "\u0643\u062c \u0643\u062d \u0643\u062e \u0643\u0644"),
   (0xfc3c, 0xfc3f, "\u0643\u0645 \u0643\u0649 \u0643\u064a \u0644\u062c"),
   (0xfc40, 0xfc43, "\u0644\u062d \u0644\u062e \u0644\u0645 \u0644\u0649"),
   (0xfc44, 0xfc47, "\u0644\u064a \u0645\u062c \u0645\u062d \u0645\u062e"),
   (0xfc48, 0xfc4b, "\u0645\u0645 \u0645\u0649 \u0645\u064a \u0646\u062c"),
   (0xfc4c, 0xfc4f, "\u0646\u062d \u0646\u062e \u0646\u0645 \u0646\u0649"),
   (0xfc50, 0xfc53, "\u0646\u064a \u0647\u062c \u0647\u0645 \u0647\u0649"),
   (0xfc54, 0xfc57, "\u0647\u064a \u064a\u062c \u064a\u062d \u064a\u062e"),
   (0xfc58, 0xfc5b, "\u064a\u0645 \u064a\u0649 \u064a\u064a \u0630\u0670"),
   (0xfc5c, 0xfc5d, "\u0631\u0670 \u0649\u0670"),
   (0xfc64, 0xfc67, "\u0626\u0631 \u0626\u0632 \u0626\u0645 \u0626\u0646"),
   (0xfc68, 0xfc6b, "\u0626\u0649 \u0626\u064a \u0628\u0631 \u0628\u0632"),
   (0xfc6c, 0xfc6f, "\u0628\u0645 \u0628\u0646 \u0628\u0649 \u0628\u064a"),
   (0xfc70, 0xfc73, "\u062a\u0631 \u062a\u0632 \u062a\u0645 \u062a\u0646"),
   (0xfc74, 0xfc77, "\u062a\u0649 \u062a\u064a \u062b\u0631 \u062b\u0632"),
   (0xfc78, 0xfc7b, "\u062b\u0645 \u062b\u0646 \u062b\u0649 \u062b\u064a"),
   (0xfc7c, 0xfc7f, "\u0641\u0649 \u0641\u064a \u0642\u0649 \u0642\u064a"),
   (0xfc80, 0xfc83, "\u0643\u0627 \u0643\u0644 \u0643\u0645 \u0643\u0649"),
   (0xfc84, 0xfc87, "\u0643\u064a \u0644\u0645 \u0644\u0649 \u0644\u064a"),
   (0xfc88, 0xfc8b, "\u0645\u0627 \u0645\u0645 \u0646\u0631 \u0646\u0632"),
   (0xfc8c, 0xfc8f, "\u0646\u0645 \u0646\u0646 \u0646\u0649 \u0646\u064a"),
   (0xfc90, 0xfc93, "\u0649\u0670 \u064a\u0631 \u064a\u0632 \u064a\u0645"),
   (0xfc94, 0xfc97, "\u064a\u0646 \u064a\u0649 \u064a\u064a \u0626\u062c"),
   (0xfc98, 0xfc9b, "\u0626\u062d \u0626\u062e \u0626\u0645 \u0626\u0647"),
   (0xfc9c, 0xfc9f, "\u0628\u062c \u0628\u062d \u0628\u062e \u0628\u0645"),
   (0xfca0, 0xfca3, "\u0628\u0647 \u062a\u062c \u062a\u062d \u062a\u062e"),
   (0xfca4, 0xfca7, "\u062a\u0645 \u062a\u0647 \u062b\u0645 \u062c\u062d"),
   (0xfca8, 0xfcab, "\u062c\u0645 \u062d\u062c \u062d\u0645 \u062e\u062c"),
   (0xfcac, 0xfcaf, "\u062e\u0645 \u0633\u062c \u0633\u062d \u0633\u062e"),
   (0xfcb0, 0xfcb3, "\u0633\u0645 \u0635\u062d \u0635\u062e \u0635\u0645"),
   (0xfcb4, 0xfcb7, "\u0636\u062c \u0636\u062d \u0636\u062e \u0636\u0645"),
   (0xfcb8, 0xfcbb, "\u0637\u062d \u0638\u0645 \u0639\u062c \u0639\u0645"),
   (0xfcbc, 0xfcbf, "\u063a\u062c \u063a\u0645 \u0641\u062c \u0641\u062d"),
   (0xfcc0, 0xfcc3, "\u0641\u062e \u0641\u0645 \u0642\u062d \u0642\u0645"),
   (0xfcc4, 0xfcc7, "\u0643\u062c \u0643\u062d \u0643\u062e \u0643\u0644"),
   (0xfcc8, 0xfccb, "\u0643\u0645 \u0644\u062c \u0644\u062d \u0644\u062e"),
   (0xfccc, 0xfccf, "\u0644\u0645 \u0644\u0647 \u0645\u062c \u0645\u062d"),
   (0xfcd0, 0xfcd3, "\u0645\u062e \u0645\u0645 \u0646\u062c \u0646\u062d"),
   (0xfcd4, 0xfcd7, "\u0646\u062e \u0646\u0645 \u0646\u0647 \u0647\u062c"),
   (0xfcd8, 0xfcdb, "\u0647\u0645 \u0647\u0670 \u064a\u062c \u064a\u062d"),
   (0xfcdc, 0xfcdf, "\u064a\u062e \u064a\u0645 \u064a\u0647 \u0626\u0645"),
   (0xfce0, 0xfce3, "\u0626\u0647 \u0628\u0645 \u0628\u0647 \u062a\u0645"),
   (0xfce4, 0xfce7, "\u062a\u0647 \u062b\u0645 \u062b\u0647 \u0633\u0645"),
   (0xfce8, 0xfceb, "\u0633\u0647 \u0634\u0645 \u0634\u0647 \u0643\u0644"),
   (0xfcec, 0xfcef, "\u0643\u0645 \u0644\u0645 \u0646\u0645 \u0646\u0647"),
   (0xfcf0, 0xfcf2, "\u064a\u0645 \u064a\u0647 \u0640\u064e\u0651"),
   (0xfcf3, 0xfcf5, "\u0640\u064f\u0651 \u0640\u0650\u0651 \u0637\u0649"),
   (0xfcf6, 0xfcf9, "\u0637\u064a \u0639\u0649 \u0639\u064a \u063a\u0649"),
   (0xfcfa, 0xfcfd, "\u063a\u064a \u0633\u0649 \u0633\u064a \u0634\u0649"),
   (0xfcfe, 0xfd01, "\u0634\u064a \u062d\u0649 \u062d\u064a \u062c\u0649"),
   (0xfd02, 0xfd05, "\u062c\u064a \u062e\u0649 \u062e\u064a \u0635\u0649"),
   (0xfd06, 0xfd09, "\u0635\u064a \u0636\u0649 \u0636\u064a \u0634\u062c"),
   (0xfd0a, 0xfd0d, "\u0634\u062d \u0634\u062e \u0634\u0645 \u0634\u0631"),
   (0xfd0e, 0xfd11, "\u0633\u0631 \u0635\u0631 \u0636\u0631 \u0637\u0649"),
   (0xfd12, 0xfd15, "\u0637\u064a \u0639\u0649 \u0639\u064a \u063a\u0649"),
   (0xfd16, 0xfd19, "\u063a\u064a \u0633\u0649 \u0633\u064a \u0634\u0649"),
   (0xfd1a, 0xfd1d, "\u0634\u064a \u062d\u0649 \u062d\u064a \u062c\u0649"),
   (0xfd1e, 0xfd21, "\u062c\u064a \u062e\u0649 \u062e\u064a \u0635\u0649"),
   (0xfd22, 0xfd25, "\u0635\u064a \u0636\u0649 \u0636\u064a \u0634\u062c"),
   (0xfd26, 0xfd29, "\u0634\u062d \u0634\u062e \u0634\u0645 \u0634\u0631"),
   (0xfd2a, 0xfd2d, "\u0633\u0631 \u0635\u0631 \u0636\u0631 \u0634\u062c"),
   (0xfd2e, 0xfd31, "\u0634\u062d \u0634\u062e \u0634\u0645 \u0633\u0647"),
   (0xfd32, 0xfd35, "\u0634\u0647 \u0637\u0645 \u0633\u062c \u0633\u062d"),
   (0xfd36, 0xfd39, "\u0633\u062e \u0634\u062c \u0634\u062d \u0634\u062e"),
   (0xfd3a, 0xfd3d, "\u0637\u0645 \u0638\u0645 \u0627\u064b \u0627\u064b"),
   (0xfd50, 0xfd52, "\u062a\u062c\u0645 \u062a\u062d\u062c \u062a\u062d\u062c"),
   (0xfd53, 0xfd55, "\u062a\u062d\u0645 \u062a\u062e\u0645 \u062a\u0645\u062c"),
   (0xfd56, 0xfd58, "\u062a\u0645\u062d \u062a\u0645\u062e \u062c\u0645\u062d"),
   (0xfd59, 0xfd5b, "\u062c\u0645\u062d \u062d\u0645\u064a \u062d\u0645\u0649"),
   (0xfd5c, 0xfd5e, "\u0633\u062d\u062c \u0633\u062c\u062d \u0633\u062c\u0649"),
   (0xfd5f, 0xfd61, "\u0633\u0645\u062d \u0633\u0645\u062d \u0633\u0645\u062c"),
   (0xfd62, 0xfd64, "\u0633\u0645\u0645 \u0633\u0645\u0645 \u0635\u062d\u062d"),
   (0xfd65, 0xfd67, "\u0635\u062d\u062d \u0635\u0645\u0645 \u0634\u062d\u0645"),
   (0xfd68, 0xfd6a, "\u0634\u062d\u0645 \u0634\u062c\u064a \u0634\u0645\u062e"),
   (0xfd6b, 0xfd6d, "\u0634\u0645\u062e \u0634\u0645\u0645 \u0634\u0645\u0645"),
   (0xfd6e, 0xfd70, "\u0636\u062d\u0649 \u0636\u062e\u0645 \u0636\u062e\u0645"),
   (0xfd71, 0xfd73, "\u0637\u0645\u062d \u0637\u0645\u062d \u0637\u0645\u0645"),
   (0xfd74, 0xfd76, "\u0637\u0645\u064a \u0639\u062c\u0645 \u0639\u0645\u0645"),
   (0xfd77, 0xfd79, "\u0639\u0645\u0645 \u0639\u0645\u0649 \u063a\u0645\u0645"),
   (0xfd7a, 0xfd7c, "\u063a\u0645\u064a \u063a\u0645\u0649 \u0641\u062e\u0645"),
   (0xfd7d, 0xfd7f, "\u0641\u062e\u0645 \u0642\u0645\u062d \u0642\u0645\u0645"),
   (0xfd80, 0xfd82, "\u0644\u062d\u0645 \u0644\u062d\u064a \u0644\u062d\u0649"),
   (0xfd83, 0xfd85, "\u0644\u062c\u062c \u0644\u062c\u062c \u0644\u062e\u0645"),
   (0xfd86, 0xfd88, "\u0644\u062e\u0645 \u0644\u0645\u062d \u0644\u0645\u062d"),
   (0xfd89, 0xfd8b, "\u0645\u062d\u062c \u0645\u062d\u0645 \u0645\u062d\u064a"),
   (0xfd8c, 0xfd8e, "\u0645\u062c\u062d \u0645\u062c\u0645 \u0645\u062e\u062c"),
   (0xfd8f, 0xfd8f, "\u0645\u062e\u0645"),
   (0xfd92, 0xfd94, "\u0645\u062c\u062e \u0647\u0645\u062c \u0647\u0645\u0645"),
   (0xfd95, 0xfd97, "\u0646\u062d\u0645 \u0646\u062d\u0649 \u0646\u062c\u0645"),
   (0xfd98, 0xfd9a, "\u0646\u062c\u0645 \u0646\u062c\u0649 \u0646\u0645\u064a"),
   (0xfd9b, 0xfd9d, "\u0646\u0645\u0649 \u064a\u0645\u0645 \u064a\u0645\u0645"),
   (0xfd9e, 0xfda0, "\u0628\u062e\u064a \u062a\u062c\u064a \u062a\u062c\u0649"),
   (0xfda1, 0xfda3, "\u062a\u062e\u064a \u062a\u062e\u0649 \u062a\u0645\u064a"),
   (0xfda4, 0xfda6, "\u062a\u0645\u0649 \u062c\u0645\u064a \u062c\u062d\u0649"),
   (0xfda7, 0xfda9, "\u062c\u0645\u0649 \u0633\u062e\u0649 \u0635\u062d\u064a"),
   (0xfdaa, 0xfdac, "\u0634\u062d\u064a \u0636\u062d\u064a \u0644\u062c\u064a"),
   (0xfdad, 0xfdaf, "\u0644\u0645\u064a \u064a\u062d\u064a \u064a\u062c\u064a"),
   (0xfdb0, 0xfdb2, "\u064a\u0645\u064a \u0645\u0645\u064a \u0642\u0645\u064a"),
   (0xfdb3, 0xfdb5, "\u0646\u062d\u064a \u0642\u0645\u062d \u0644\u062d\u0645"),
   (0xfdb6, 0xfdb8, "\u0639\u0645\u064a \u0643\u0645\u064a \u0646\u062c\u062d"),
   (0xfdb9, 0xfdbb, "\u0645\u062e\u064a \u0644\u062c\u0645 \u0643\u0645\u0645"),
   (0xfdbc, 0xfdbe, "\u0644\u062c\u0645 \u0646\u062c\u062d \u062c\u062d\u064a"),
   (0xfdbf, 0xfdc1, "\u062d\u062c\u064a \u0645\u062c\u064a \u0641\u0645\u064a"),
   (0xfdc2, 0xfdc4, "\u0628\u062d\u064a \u0643\u0645\u0645 \u0639\u062c\u0645"),
   (0xfdc5, 0xfdc7, "\u0635\u0645\u0645 \u0633\u062e\u064a \u0646\u062c\u064a"),
   (0xfdf0, 0xfdf1, "\u0635\u0644\u06d2 \u0642\u0644\u06d2"),
   (0xfdf2, 0xfdf3, "\u0627\u0644\u0644\u0647 \u0627\u0643\u0628\u0631"),
   (0xfdf4, 0xfdf5, "\u0645\u062d\u0645\u062f \u0635\u0644\u0639\u0645"),
   (0xfdf6, 0xfdf7, "\u0631\u0633\u0648\u0644 \u0639\u0644\u064a\u0647"),
   (0xfdf8, 0xfdf9, "\u0648\u0633\u0644\u0645 \u0635\u0644\u0649"),
   (0xfe33, 0xfe34, "_ _"), (0xfe4d, 0xfe4f, "_ _ _"),
   (0xfe71, 0xfe71, "\u0640\u064b"), (0xfe77, 0xfe77, "\u0640\u064e"),
   (0xfe79, 0xfe79, "\u0640\u064f"), (0xfe7b, 0xfe7b, "\u0640\u0650"),
   (0xfe7d, 0xfe7d, "\u0640\u0651"),
   (0xfe7f, 0xfe85, "\u0640\u0652 \u0621 \u0622 \u0622 \u0623 \u0623 \u0624"),
   (0xfe86, 0xfe8d, "\u0624 \u0625 \u0625 \u0626 \u0626 \u0626 \u0626 \u0627"),
   (0xfe8e, 0xfe95, "\u0627 \u0628 \u0628 \u0628 \u0628 \u0629 \u0629 \u062a"),
   (0xfe96, 0xfe9d, "\u062a \u062a \u062a \u062b \u062b \u062b \u062b \u062c"),
   (0xfe9e, 0xfea5, "\u062c \u062c \u062c \u062d \u062d \u062d \u062d \u062e"),
   (0xfea6, 0xfead, "\u062e \u062e \u062e \u062f \u062f \u0630 \u0630 \u0631"),
   (0xfeae, 0xfeb5, "\u0631 \u0632 \u0632 \u0633 \u0633 \u0633 \u0633 \u0634"),
   (0xfeb6, 0xfebd, "\u0634 \u0634 \u0634 \u0635 \u0635 \u0635 \u0635 \u0636"),
   (0xfebe, 0xfec5, "\u0636 \u0636 \u0636 \u0637 \u0637 \u0637 \u0637 \u0638"),
   (0xfec6, 0xfecd, "\u0638 \u0638 \u0638 \u0639 \u0639 \u0639 \u0639 \u063a"),
   (0xfece, 0xfed5, "\u063a \u063a \u063a \u0641 \u0641 \u0641 \u0641 \u0642"),
   (0xfed6, 0xfedd, "\u0642 \u0642 \u0642 \u0643 \u0643 \u0643 \u0643 \u0644"),
   (0xfede, 0xfee5, "\u0644 \u0644 \u0644 \u0645 \u0645 \u0645 \u0645 \u0646"),
   (0xfee6, 0xfeed, "\u0646 \u0646 \u0646 \u0647 \u0647 \u0647 \u0647 \u0648"),
   (0xfeee, 0xfef4, "\u0648 \u0649 \u0649 \u064a \u064a \u064a \u064a"),
   (0xfef5, 0xfef8, "\u0644\u0622 \u0644\u0622 \u0644\u0623 \u0644\u0623"),
   (0xfef9, 0xfefc, "\u0644\u0625 \u0644\u0625 \u0644\u0627 \u0644\u0627"),
   (0xff10, 0xff19, "0 1 2 3 4 5 6 7 8 9"),
   (0xff21, 0xff3a, "A B C D E F G H I J K L M N O P Q R S T U V W X Y Z"),
   (0xff3f, 0xff3f, "_"),
   (0xff41, 0xff5a, "a b c d e f g h i j k l m n o p q r s t u v w x y z"),
   (0xff66, 0xff81, "ヲ ァ ィ ゥ ェ ォ ャ ュ ョ ッ ー ア イ ウ エ オ カ キ ク ケ コ サ シ ス セ ソ タ チ"),
   (0xff82, 0xff9d, "ツ テ ト ナ ニ ヌ ネ ノ ハ ヒ フ ヘ ホ マ ミ ム メ モ ヤ ユ ヨ ラ リ ル レ ロ ワ ン"),
   (0xff9e, 0xffa5, "\u3099 \u309a \u1160 \u1100 \u1101 \u11aa \u1102 \u11ac"),
   (0xffa6, 0xffad, "\u11ad \u1103 \u1104 \u1105 \u11b0 \u11b1 \u11b2 \u11b3"),
   (0xffae, 0xffb5, "\u11b4 \u11b5 \u111a \u1106 \u1107 \u1108 \u1121 \u1109"),
   (0xffb6, 0xffbd, "\u110a \u110b \u110c \u110d \u110e \u110f \u1110 \u1111"),
   (0xffbe, 0xffbe, "\u1112"),
   (0xffc2, 0xffc7, "\u1161 \u1162 \u1163 \u1164 \u1165 \u1166"),
   (0xffca, 0xffcf, "\u1167 \u1168 \u1169 \u116a \u116b \u116c"),
   (0xffd2, 0xffd7, "\u116d \u116e \u116f \u1170 \u1171 \u1172"),
   (0xffda, 0xffdc, "\u1173 \u1174 \u1175"), (0x10781, 0x10785, "ː ˑ æ ʙ ɓ"),
   (0x10787, 0x107a1, "ʣ ꭦ ʥ ʤ ɖ ɗ ᶑ ɘ ɞ ʩ ɤ ɢ ɠ ʛ ħ ʜ ɧ ʄ ʪ ʫ ɬ 𝼄 ꞎ ɮ 𝼅 ʎ 𝼆"),
   (0x107a2, 0x107b0, "ø ɶ ɷ q ɺ 𝼈 ɽ ɾ ʀ ʨ ʦ ꭧ ʧ ʈ ⱱ"),
   (0x107b2, 0x107ba, "ʏ ʡ ʢ ʘ ǀ ǁ ǂ 𝼊 𝼞"),
   (0x1d400, 0x1d41a, "A B C D E F G H I J K L M N O P Q R S T U V W X Y Z a"),
   (0x1d41b, 0x1d435, "b c d e f g h i j k l m n o p q r s t u v w x y z A B"),
   (0x1d436, 0x1d450, "C D E F G H I J K L M N O P Q R S T U V W X Y Z a b c"),
   (0x1d451, 0x1d454, "d e f g"),
   (0x1d456, 0x1d470, "i j k l m n o p q r s t u v w x y z A B C D E F G H I"),
   (0x1d471, 0x1d48b, "J K L M N O P Q R S T U V W X Y Z a b c d e f g h i j"),
   (0x1d48c, 0x1d49c, "k l m n o p q r s t u v w x y z A"),
   (0x1d49e, 0x1d49f, "C D"), (0x1d4a2, 0x1d4a2, "G"),
   (0x1d4a5, 0x1d4a6, "J K"), (0x1d4a9, 0x1d4ac, "N O P Q"),
   (0x1d4ae, 0x1d4b9, "S T U V W X Y Z a b c d"), (0x1d4bb, 0x1d4bb, "f"),
   (0x1d4bd, 0x1d4c3, "h i j k l m n"),
   (0x1d4c5, 0x1d4df, "p q r s t u v w x y z A B C D E F G H I J K L M N O P"),
   (0x1d4e0, 0x1d4fa, "Q R S T U V W X Y Z a b c d e f g h i j k l m n o p q"),
   (0x1d4fb, 0x1d505, "r s t u v w x y z A B"), (0x1d507, 0x1d50a, "D E F G"),
   (0x1d50d, 0x1d514, "J K L M N O P Q"), (0x1d516, 0x1d51c, "S T U V W X Y"),
   (0x1d51e, 0x1d538, "a b c d e f g h i j k l m n o p q r s t u v w x y z A"),
   (0x1d539, 0x1d539, "B"), (0x1d53b, 0x1d53e, "D E F G"),
   (0x1d540, 0x1d544, "I J K L M"), (0x1d546, 0x1d546, "O"),
   (0x1d54a, 0x1d550, "S T U V W X Y"),
   (0x1d552, 0x1d56c, "a b c d e f g h i j k l m n o p q r s t u v w x y z A"),
   (0x1d56d, 0x1d587, "B C D E F G H I J K L M N O P Q R S T U V W X Y Z a b"),
   (0x1d588, 0x1d5a2, "c d e f g h i j k l m n o p q r s t u v w x y z A B C"),
   (0x1d5a3, 0x1d5bd, "D E F G H I J K L M N O P Q R S T U V W X Y Z a b c d"),
   (0x1d5be, 0x1d5d8, "e f g h i j k l m n o p q r s t u v w x y z A B C D E"),
   (0x1d5d9, 0x1d5f3, "F G H I J K L M N O P Q R S T U V W X Y Z a b c d e f"),
   (0x1d5f4, 0x1d60e, "g h i j k l m n o p q r s t u v w x y z A B C D E F G"),
   (0x1d60f, 0x1d629, "H I J K L M N O P Q R S T U V W X Y Z a b c d e f g h"),
   (0x1d62a, 0x1d644, "i j k l m n o p q r s t u v w x y z A B C D E F G H I"),
   (0x1d645, 0x1d65f, "J K L M N O P Q R S T U V W X Y Z a b c d e f g h i j"),
   (0x1d660, 0x1d67a, "k l m n o p q r s t u v w x y z A B C D E F G H I J K"),
   (0x1d67b, 0x1d695, "L M N O P Q R S T U V W X Y Z a b c d e f g h i j k l"),
   (0x1d696, 0x1d6a5, "m n o p q r s t u v w x y z ı ȷ"),
   (0x1d6a8, 0x1d6c0, "Α Β Γ Δ Ε Ζ Η Θ Ι Κ Λ Μ Ν Ξ Ο Π Ρ Θ Σ Τ Υ Φ Χ Ψ Ω"),
   (0x1d6c2, 0x1d6da, "α β γ δ ε ζ η θ ι κ λ μ ν ξ ο π ρ ς σ τ υ φ χ ψ ω"),
   (0x1d6dc, 0x1d6f6, "ε θ κ φ ρ π Α Β Γ Δ Ε Ζ Η Θ Ι Κ Λ Μ Ν Ξ Ο Π Ρ Θ Σ Τ Υ"),
   (0x1d6f7, 0x1d6fa, "Φ Χ Ψ Ω"),
   (0x1d6fc, 0x1d714, "α β γ δ ε ζ η θ ι κ λ μ ν ξ ο π ρ ς σ τ υ φ χ ψ ω"),
   (0x1d716, 0x1d730, "ε θ κ φ ρ π Α Β Γ Δ Ε Ζ Η Θ Ι Κ Λ Μ Ν Ξ Ο Π Ρ Θ Σ Τ Υ"),
   (0x1d731, 0x1d734, "Φ Χ Ψ Ω"),
   (0x1d736, 0x1d74e, "α β γ δ ε ζ η θ ι κ λ μ ν ξ ο π ρ ς σ τ υ φ χ ψ ω"),
   (0x1d750, 0x1d76a, "ε θ κ φ ρ π Α Β Γ Δ Ε Ζ Η Θ Ι Κ Λ Μ Ν Ξ Ο Π Ρ Θ Σ Τ Υ"),
   (0x1d76b, 0x1d76e, "Φ Χ Ψ Ω"),
   (0x1d770, 0x1d788, "α β γ δ ε ζ η θ ι κ λ μ ν ξ ο π ρ ς σ τ υ φ χ ψ ω"),
   (0x1d78a, 0x1d7a4, "ε θ κ φ ρ π Α Β Γ Δ Ε Ζ Η Θ Ι Κ Λ Μ Ν Ξ Ο Π Ρ Θ Σ Τ Υ"),
   (0x1d7a5, 0x1d7a8, "Φ Χ Ψ Ω"),
   (0x1d7aa, 0x1d7c2, "α β γ δ ε ζ η θ ι κ λ μ ν ξ ο π ρ ς σ τ υ φ χ ψ ω"),
   (0x1d7c4, 0x1d7cb, "ε θ κ φ ρ π Ϝ ϝ"),
   (0x1d7ce, 0x1d7e8, "0 1 2 3 4 5 6 7 8 9 0 1 2 3 4 5 6 7 8 9 0 1 2 3 4 5 6"),
   (0x1d7e9, 0x1d7ff, "7 8 9 0 1 2 3 4 5 6 7 8 9 0 1 2 3 4 5 6 7 8 9"),
   (0x1ee00, 0x1ee03, "\u0627 \u0628 \u062c \u062f"),
   (0x1ee05, 0x1ee0b, "\u0648 \u0632 \u062d \u0637 \u064a \u0643 \u0644"),
   (0x1ee0c, 0x1ee12, "\u0645 \u0646 \u0633 \u0639 \u0641 \u0635 \u0642"),
   (0x1ee13, 0x1ee19, "\u0631 \u0634 \u062a \u062b \u062e \u0630 \u0636"),
   (0x1ee1a, 0x1ee1f, "\u0638 \u063a \u066e \u06ba \u06a1 \u066f"),
   (0x1ee21, 0x1ee22, "\u0628 \u062c"), (0x1ee24, 0x1ee24, "\u0647"),
   (0x1ee27, 0x1ee27, "\u062d"),
   (0x1ee29, 0x1ee2f, "\u064a \u0643 \u0644 \u0645 \u0646 \u0633 \u0639"),
   (0x1ee30, 0x1ee32, "\u0641 \u0635 \u0642"),
   (0x1ee34, 0x1ee37, "\u0634 \u062a \u062b \u062e"),
   (0x1ee39, 0x1ee39, "\u0636"), (0x1ee3b, 0x1ee3b, "\u063a"),
   (0x1ee42, 0x1ee42, "\u062c"), (0x1ee47, 0x1ee47, "\u062d"),
   (0x1ee49, 0x1ee49, "\u064a"), (0x1ee4b, 0x1ee4b, "\u0644"),
   (0x1ee4d, 0x1ee4f, "\u0646 \u0633 \u0639"),
   (0x1ee51, 0x1ee52, "\u0635 \u0642"), (0x1ee54, 0x1ee54, "\u0634"),
   (0x1ee57, 0x1ee57, "\u062e"), (0x1ee59, 0x1ee59, "\u0636"),
   (0x1ee5b, 0x1ee5b, "\u063a"), (0x1ee5d, 0x1ee5d, "\u06ba"),
   (0x1ee5f, 0x1ee5f, "\u066f"), (0x1ee61, 0x1ee62, "\u0628 \u062c"),
   (0x1ee64, 0x1ee64, "\u0647"),
   (0x1ee67, 0x1ee6a, "\u062d \u0637 \u064a \u0643"),
   (0x1ee6c, 0x1ee72, "\u0645 \u0646 \u0633 \u0639 \u0641 \u0635 \u0642"),
   (0x1ee74, 0x1ee77, "\u0634 \u062a \u062b \u062e"),
   (0x1ee79, 0x1ee7c, "\u0636 \u0638 \u063a \u066e"),
   (0x1ee7e, 0x1ee7e, "\u06a1"),
   (0x1ee80, 0x1ee86, "\u0627 \u0628 \u062c \u062f \u0647 \u0648 \u0632"),
   (0x1ee87, 0x1ee89, "\u062d \u0637 \u064a"),
   (0x1ee8b, 0x1ee91, "\u0644 \u0645 \u0646 \u0633 \u0639 \u0641 \u0635"),
   (0x1ee92, 0x1ee98, "\u0642 \u0631 \u0634 \u062a \u062b \u062e \u0630"),
   (0x1ee99, 0x1ee9b, "\u0636 \u0638 \u063a"),
   (0x1eea1, 0x1eea3, "\u0628 \u062c \u062f"),
   (0x1eea5, 0x1eea9, "\u0648 \u0632 \u062d \u0637 \u064a"),
   (0x1eeab, 0x1eeb1, "\u0644 \u0645 \u0646 \u0633 \u0639 \u0641 \u0635"),
   (0x1eeb2, 0x1eeb8, "\u0642 \u0631 \u0634 \u062a \u062b \u062e \u0630"),
   (0x1eeb9, 0x1eebb, "\u0636 \u0638 \u063a"),
   (0x1fbf0, 0x1fbf9, "0 1 2 3 4 5 6 7 8 9"),
   (0x2f800, 0x2f81a, "丽 丸 乁 𠄢 你 侮 侻 倂 偺 備 僧 像 㒞 𠘺 免 兔 兤 具 𠔜 㒹 內 再 𠕋 冗 冤 仌 冬"),
   (0x2f81b, 0x2f835, "况 𩇟 凵 刃 㓟 刻 剆 割 剷 㔕 勇 勉 勤 勺 包 匆 北 卉 卑 博 即 卽 卿 卿 卿 𠨬 灰"),
   (0x2f836, 0x2f850, "及 叟 𠭣 叫 叱 吆 咞 吸 呈 周 咢 哶 唐 啓 啣 善 善 喙 喫 喳 嗂 圖 嘆 圗 噑 噴 切"),
   (0x2f851, 0x2f86b, "壮 城 埴 堍 型 堲 報 墬 𡓤 売 壷 夆 多 夢 奢 𡚨 𡛪 姬 娛 娧 姘 婦 㛮 㛼 嬈 嬾 嬾"),
   (0x2f86c, 0x2f886, "𡧈 寃 寘 寧 寳 𡬘 寿 将 当 尢 㞁 屠 屮 峀 岍 𡷤 嵃 𡷦 嵮 嵫 嵼 巡 巢 㠯 巽 帨 帽"),
   (0x2f887, 0x2f8a1, "幩 㡢 𢆃 㡼 庰 庳 庶 廊 𪎒 廾 𢌱 𢌱 舁 弢 弢 㣇 𣊸 𦇚 形 彫 㣣 徚 忍 志 忹 悁 㤺"),
   (0x2f8a2, 0x2f8bc, "㤜 悔 𢛔 惇 慈 慌 慎 慌 慺 憎 憲 憤 憯 懞 懲 懶 成 戛 扝 抱 拔 捐 𢬌 挽 拼 捨 掃"),
   (0x2f8bd, 0x2f8d7, "揤 𢯱 搢 揅 掩 㨮 摩 摾 撝 摷 㩬 敏 敬 𣀊 旣 書 晉 㬙 暑 㬈 㫤 冒 冕 最 暜 肭 䏙"),
   (0x2f8d8, 0x2f8f2, "朗 望 朡 杞 杓 𣏃 㭉 柺 枅 桒 梅 𣑭 梎 栟 椔 㮝 楂 榣 槪 檨 𣚣 櫛 㰘 次 𣢧 歔 㱎"),
   (0x2f8f3, 0x2f90d, "歲 殟 殺 殻 𣪍 𡴋 𣫺 汎 𣲼 沿 泍 汧 洖 派 海 流 浩 浸 涅 𣴞 洴 港 湮 㴳 滋 滇 𣻑"),
   (0x2f90e, 0x2f928, "淹 潮 𣽞 𣾎 濆 瀹 瀞 瀛 㶖 灊 災 灷 炭 𠔥 煅 𤉣 熜 𤎫 爨 爵 牐 𤘈 犀 犕 𤜵 𤠔 獺"),
   (0x2f929, 0x2f943, "王 㺬 玥 㺸 㺸 瑇 瑜 瑱 璅 瓊 㼛 甤 𤰶 甾 𤲒 異 𢆟 瘐 𤾡 𤾸 𥁄 㿼 䀈 直 𥃳 𥃲 𥄙"),
   (0x2f944, 0x2f95e, "𥄳 眞 真 真 睊 䀹 瞋 䁆 䂖 𥐝 硎 碌 磌 䃣 𥘦 祖 𥚚 𥛅 福 秫 䄯 穀 穊 穏 𥥼 𥪧 𥪧"),
   (0x2f95f, 0x2f979, "竮 䈂 𥮫 篆 築 䈧 𥲀 糒 䊠 糨 糣 紀 𥾆 絣 䌁 緇 縂 繅 䌴 𦈨 𦉇 䍙 𦋙 罺 𦌾 羕 翺"),
   (0x2f97a, 0x2f994, "者 𦓚 𦔣 聠 𦖨 聰 𣍟 䏕 育 脃 䐋 脾 媵 𦞧 𦞵 𣎓 𣎜 舁 舄 辞 䑫 芑 芋 芝 劳 花 芳"),
   (0x2f995, 0x2f9af, "芽 苦 𦬼 若 茝 荣 莭 茣 莽 菧 著 荓 菊 菌 菜 𦰶 𦵫 𦳕 䔫 蓱 蓳 蔖 𧏊 蕤 𦼬 䕝 䕡"),
   (0x2f9b0, 0x2f9ca, "𦾱 𧃒 䕫 虐 虜 虧 虩 蚩 蚈 蜎 蛢 蝹 蜨 蝫 螆 䗗 蟡 蠁 䗹 衠 衣 𧙧 裗 裞 䘵 裺 㒻"),
   (0x2f9cb, 0x2f9e5, "𧢮 𧥦 䚾 䛇 誠 諭 變 豕 𧲨 貫 賁 贛 起 𧼯 𠠄 跋 趼 跰 𠣞 軔 輸 𨗒 𨗭 邔 郱 鄑 𨜮"),
   (0x2f9e6, 0x2fa00, "鄛 鈸 鋗 鋘 鉼 鏹 鐕 𨯺 開 䦕 閷 𨵷 䧦 雃 嶲 霣 𩅅 𩈚 䩮 䩶 韠 𩐊 䪲 𩒖 頋 頋 頩"),
   (0x2fa01, 0x2fa1b, "𩖶 飢 䬳 餩 馧 駂 駾 䯎 𩬰 鬒 鱀 鳽 䳎 䳭 鵧 𪃎 䳸 𪄅 𪈎 𪊑 麻 䵖 黹 黾 鼅 鼏 鼖"),
   (0x2fa1c, 0x2fa1d, "鼻 𪘀")]

end ShaderBindings.Text
